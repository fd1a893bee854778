import GoTen.Enclave.BatchExecutor
import GoTen.Verified.Chain

/-!
# Inbound cross-chain messages (`MessageBusManager.RetrieveInboundMessages`)

When the enclave ingests an L1 block it stores the messages and value
transfers the L1 message bus published in it, under the block. A batch whose
L1 proof is `block`, and whose parent batch has the L1 proof `parentBlock`,
receives `RetrieveInboundMessages(parentBlock, block)`: what is stored for the
blocks from `block` down to `parentBlock`, which is excluded. The call first
checks with `storage.IsAncestor` that `parentBlock` is an ancestor of `block`,
and stops the node otherwise.

The Go loops have no bound. The model gives both walks the height of `block`
plus one as fuel, which is enough on a store where every stored parent is one
lower than its child.

## Main results

* `isAncestor_of_between`: with that fuel, `IsAncestor` finds every ancestor.
* `retrieveFrom_between`, `retrieveInboundMessages_between`: the walk returns
  what is stored for the blocks it passes, in the order it passes them.
* `inboundAlong_exactlyOnce`: along a chain of L1 proofs, the retrieved
  messages are those of the blocks above the first proof up to the last,
  each block once.
-/

namespace GoTen.Enclave.InboundMessages

open GoTen.Common
open GoTen.Verified
open GoTen.Verified.Chain
open GoTen.Enclave.BatchExecutor

/-- What the walk reads from storage: `FetchBlock`, and `GetL1Messages` and
`GetL1Transfers`, the lists stored for a block hash (empty when nothing was
stored). -/
structure InboundStorage where
  fetchBlock : Hash → Option L1Header
  getL1Messages : Hash → List CrossChainMessage
  getL1Transfers : Hash → List ValueTransferEvent

/-- `storage.IsAncestor(block, maybeAncestor)`, with `fuel` bounding the
recursion. A missing parent answers `false`. -/
def isAncestor (fetchBlock : Hash → Option L1Header) :
    Nat → L1Header → L1Header → Bool
  | 0, _, _ => false
  | fuel + 1, block, maybeAncestor =>
      if maybeAncestor.hash = block.hash then true
      else if block.number ≤ maybeAncestor.number then false
      else match fetchBlock block.parentHash with
        | none => false
        | some p => isAncestor fetchBlock fuel p maybeAncestor

/-- The loop of `RetrieveInboundMessages` from block `b` down to the block
with hash `fromHash`; `height` is that block's height. -/
def retrieveFrom (st : InboundStorage) (fromHash : Hash) (height : Nat) :
    Nat → L1Header → Except Failure (List CrossChainMessage × List ValueTransferEvent)
  | 0, _ => .error (.error "walk to the older block did not terminate")
  | fuel + 1, b =>
      if b.hash = fromHash then .ok ([], [])
      else do
        let messagesForBlock := st.getL1Messages b.hash
        let transfersForBlock := st.getL1Transfers b.hash
        Result.check (decide (b.number < height))
          (.crit "block height is less than genesis height")
        let p ← match st.fetchBlock b.parentHash with
          | some p => pure p
          | none => throw (.crit "Synthetic transactions can't be processed because the rollups are not on the same Ethereum fork")
        let (messages, transfers) ← retrieveFrom st fromHash height fuel p
        return (messagesForBlock ++ messages, transfersForBlock ++ transfers)

/-- `MessageBusManager.RetrieveInboundMessages(fromBlock, toBlock)`. -/
def retrieveInboundMessages (st : InboundStorage) (fromBlock toBlock : L1Header) :
    Except Failure (List CrossChainMessage × List ValueTransferEvent) := do
  Result.check (!isAncestor st.fetchBlock (toBlock.number + 1) toBlock fromBlock)
    (.crit "Synthetic transactions can't be processed because the rollups are not on the same Ethereum fork. This should not happen.")
  retrieveFrom st fromBlock.hash fromBlock.number (toBlock.number + 1) toBlock

/-- What a chain of batches receives: `RetrieveInboundMessages` from the L1
proof of each batch's parent to its own, concatenated. -/
def inboundAlong (st : InboundStorage) :
    List L1Header → Except Failure (List CrossChainMessage × List ValueTransferEvent)
  | p :: q :: rest => do
      let (messages, transfers) ← retrieveInboundMessages st p q
      let (later, laterTransfers) ← inboundAlong st (q :: rest)
      return (messages ++ later, transfers ++ laterTransfers)
  | _ => .ok ([], [])

/-- The messages and transfers stored for the given blocks, in order. -/
def storedFor (st : InboundStorage) (blocks : List L1Header) :
    List CrossChainMessage × List ValueTransferEvent :=
  (blocks.flatMap fun c => st.getL1Messages c.hash,
    blocks.flatMap fun c => st.getL1Transfers c.hash)

@[simp] theorem storedFor_nil (st : InboundStorage) : storedFor st [] = ([], []) := rfl

theorem storedFor_cons (st : InboundStorage) (c : L1Header) (blocks : List L1Header) :
    storedFor st (c :: blocks) =
      (st.getL1Messages c.hash ++ (storedFor st blocks).1,
        st.getL1Transfers c.hash ++ (storedFor st blocks).2) := by
  simp [storedFor]

section Walk

variable {st : InboundStorage}
  (hn : Numbered st.fetchBlock L1Header.parentHash L1Header.number)

include hn

/-- `IsAncestor` answers `true` for an ancestor reached within the fuel. -/
theorem isAncestor_of_between {k : Hash} {a b : L1Header} {L : List L1Header} {fuel : Nat}
    (hb : st.fetchBlock k = some b) (h : Between st.fetchBlock L1Header.parentHash a b L)
    (hfuel : L.length < fuel) : isAncestor st.fetchBlock fuel b a = true := by
  induction h generalizing k fuel with
  | refl =>
      obtain ⟨f, rfl⟩ : ∃ f, fuel = f + 1 := ⟨fuel - 1, by omega⟩
      rw [isAncestor, if_pos rfl]
  | @parent b p L hp hrest ih =>
      obtain ⟨f, rfl⟩ : ∃ f, fuel = f + 1 := ⟨fuel - 1, by omega⟩
      have hstep := hn _ _ _ hb hp
      have hap := hrest.ancestorOrSelf.number_le hn hp
      rw [isAncestor]
      by_cases heq : a.hash = b.hash
      · rw [if_pos heq]
      · rw [if_neg heq, if_neg (by omega), hp]
        exact ih hp (by simp only [List.length_cons] at hfuel; omega)

variable (hk : Keyed st.fetchBlock L1Header.hash)

include hk

/-- The walk returns what is stored for the blocks it passes. -/
theorem retrieveFrom_between {k : Hash} {a b : L1Header} {L : List L1Header} {fuel : Nat}
    (ha : st.fetchBlock a.hash = some a) (hb : st.fetchBlock k = some b)
    (h : Between st.fetchBlock L1Header.parentHash a b L) (hfuel : L.length < fuel) :
    retrieveFrom st a.hash a.number fuel b = .ok (storedFor st L) := by
  induction h generalizing k fuel with
  | refl =>
      obtain ⟨f, rfl⟩ : ∃ f, fuel = f + 1 := ⟨fuel - 1, by omega⟩
      rw [retrieveFrom, if_pos rfl, storedFor_nil]
  | @parent b p L hp hrest ih =>
      obtain ⟨f, rfl⟩ : ∃ f, fuel = f + 1 := ⟨fuel - 1, by omega⟩
      have hstep := hn _ _ _ hb hp
      have hap := hrest.ancestorOrSelf.number_le hn hp
      -- a stored block above `a` does not share its hash
      have hne : b.hash ≠ a.hash := by
        intro heq
        have hkey := hk k b hb
        rw [← hkey, heq, ha] at hb
        cases hb
        omega
      have hrec : retrieveFrom st a.hash a.number f p = .ok (storedFor st L) :=
        ih hp (by simp only [List.length_cons] at hfuel; omega)
      rw [retrieveFrom, if_neg hne, decide_eq_false (by omega)]
      simp only [Result.check_false, hp, hrec, storedFor_cons, bind, Except.bind, pure,
        Except.pure]

/-- `RetrieveInboundMessages` from a stored ancestor returns what is stored for
the blocks above it. -/
theorem retrieveInboundMessages_between {a b : L1Header} {L : List L1Header}
    (ha : st.fetchBlock a.hash = some a) (hb : st.fetchBlock b.hash = some b)
    (h : Between st.fetchBlock L1Header.parentHash a b L) :
    retrieveInboundMessages st a b = .ok (storedFor st L) := by
  have hlen := h.length_add hn hb
  have hanc : isAncestor st.fetchBlock (b.number + 1) b a = true :=
    isAncestor_of_between hn hb h (by omega)
  rw [retrieveInboundMessages, hanc, Bool.not_true, Result.bind_of_eq_ok (Result.check_false _)]
  exact retrieveFrom_between hn hk ha hb h (by omega)

/-- Along a chain of stored L1 proofs, `inboundAlong` returns what is stored
for the ancestors of the last proof above the first, each once. -/
theorem inboundAlong_chain (p₀ : L1Header) (proofs : List L1Header)
    (hstored : ∀ p ∈ p₀ :: proofs, st.fetchBlock p.hash = some p)
    (hchain : (p₀ :: proofs).IsChain (AncestorOrSelf st.fetchBlock L1Header.parentHash)) :
    ∃ blocks : List L1Header, inboundAlong st (p₀ :: proofs) = .ok (storedFor st blocks) ∧
      blocks.Nodup ∧
      ∀ c, c ∈ blocks ↔ AncestorOrSelf st.fetchBlock L1Header.parentHash c
        ((p₀ :: proofs).getLast (List.cons_ne_nil _ _)) ∧ p₀.number < c.number := by
  induction proofs generalizing p₀ with
  | nil =>
      refine ⟨[], rfl, List.nodup_nil, fun c => ?_⟩
      simp only [List.not_mem_nil, false_iff, not_and, not_lt, List.getLast_singleton]
      intro hc
      exact hc.number_le hn (hstored p₀ List.mem_cons_self)
  | cons q rest ih =>
      -- the first interval is a walk from `q` down to `p₀`; the rest is the induction
      rw [List.isChain_cons_cons] at hchain
      obtain ⟨hpq, hrest⟩ := hchain
      have hp₀ := hstored p₀ List.mem_cons_self
      have hq := hstored q (List.mem_cons_of_mem _ List.mem_cons_self)
      obtain ⟨L, hL⟩ := hpq.between
      obtain ⟨blocks, hrun, hnodup, hmem⟩ :=
        ih q (fun p hp => hstored p (List.mem_cons_of_mem _ hp)) hrest
      have hlast := ancestorOrSelf_getLast hrest
      have hlastStored := hstored _ (List.mem_cons_of_mem _ (List.getLast_mem (List.cons_ne_nil q rest)))
      have hpq_le := hpq.number_le hn hq
      have hfirst := retrieveInboundMessages_between hn hk hp₀ hq hL
      refine ⟨L ++ blocks, ?_, ?_, fun c => ?_⟩
      · simp only [inboundAlong, hfirst, hrun, storedFor, bind, Except.bind, pure, Except.pure,
          List.flatMap_append]
      · rw [List.nodup_append]
        refine ⟨hL.nodup hn hq, hnodup, ?_⟩
        intro c hc d hd hcd
        have hcq := ((hL.mem_iff hn hq c).mp hc).1.number_le hn hq
        have hqd := ((hmem d).mp hd).2
        rw [hcd] at hcq
        omega
      · rw [List.getLast_cons_cons, List.mem_append, hL.mem_iff hn hq, hmem]
        constructor
        · rintro (⟨hc, hlt⟩ | ⟨hc, hlt⟩)
          · exact ⟨hc.trans hlast, hlt⟩
          · exact ⟨hc, by omega⟩
        · rintro ⟨hc, hlt⟩
          by_cases hcq : c.number ≤ q.number
          · exact .inl ⟨hc.of_number_le hn hlastStored hlast hcq, hlt⟩
          · exact .inr ⟨hc, by omega⟩

end Walk

theorem inboundAlong_exactlyOnce (st : InboundStorage)
    (hn : Numbered st.fetchBlock L1Header.parentHash L1Header.number)
    (hk : Keyed st.fetchBlock L1Header.hash) (p₀ : L1Header) (proofs : List L1Header)
    (hstored : ∀ p ∈ p₀ :: proofs, st.fetchBlock p.hash = some p)
    (hchain : (p₀ :: proofs).IsChain (AncestorOrSelf st.fetchBlock L1Header.parentHash)) :
    ∃ blocks : List L1Header,
      inboundAlong st (p₀ :: proofs) = .ok (storedFor st blocks) ∧
      (blocks.map L1Header.hash).Nodup ∧
      ∀ c, c ∈ blocks ↔ AncestorOrSelf st.fetchBlock L1Header.parentHash c
        ((p₀ :: proofs).getLast (List.cons_ne_nil _ _)) ∧ p₀.number < c.number := by
  obtain ⟨blocks, hrun, hnodup, hmem⟩ := inboundAlong_chain hn hk p₀ proofs hstored hchain
  refine ⟨blocks, hrun, hnodup.map_on ?_, hmem⟩
  -- every block passed is stored, so one hash names one block
  intro c hc d hd hcd
  have hlast := hstored _ (List.getLast_mem (List.cons_ne_nil p₀ proofs))
  have hcs := ((hmem c).mp hc).1.stored hk hlast
  have hds := ((hmem d).mp hd).1.stored hk hlast
  rw [hcd, hds] at hcs
  exact (Option.some.inj hcs).symm

/-! ## Three blocks and four batches -/

/-- Blocks at heights 10, 11 and 12, each the parent of the next. -/
def inboundBlocks : List L1Header := [⟨1, 0, 10⟩, ⟨2, 1, 11⟩, ⟨3, 2, 12⟩]

/-- A store of the three blocks, with one message published in the second
and one transfer in the third. -/
def inboundStorage : InboundStorage where
  fetchBlock := storeOf L1Header.hash inboundBlocks
  getL1Messages h := if h = 2 then [⟨0, 0, 0, 1, [], 0⟩] else []
  getL1Transfers h := if h = 3 then [⟨0, 0, 1, 0⟩] else []

theorem inboundAlong_inboundBlocks :
    ∃ blocks : List L1Header,
      inboundAlong inboundStorage [⟨1, 0, 10⟩, ⟨2, 1, 11⟩, ⟨2, 1, 11⟩, ⟨3, 2, 12⟩] =
        .ok (storedFor inboundStorage blocks) ∧
      (blocks.map L1Header.hash).Nodup ∧
      ∀ c, c ∈ blocks ↔ AncestorOrSelf inboundStorage.fetchBlock L1Header.parentHash c
        ⟨3, 2, 12⟩ ∧ 10 < c.number :=
  inboundAlong_exactlyOnce inboundStorage (storeOf_numbered (by decide))
    (fun _ _ h => storeOf_key h) ⟨1, 0, 10⟩ [⟨2, 1, 11⟩, ⟨2, 1, 11⟩, ⟨3, 2, 12⟩] (by decide)
    (.cons_cons (.parent rfl (.refl _)) (.cons_cons (.refl _)
      (.cons_cons (.parent rfl (.refl _)) (.singleton _))))

end GoTen.Enclave.InboundMessages
