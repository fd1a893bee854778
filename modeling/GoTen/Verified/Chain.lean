import Mathlib

/-!
# Chains of stored blocks and consecutive numbering

A block store is a partial map `fetch` from keys to blocks; every block names
the key of its parent (`parentKey`) and carries a height (`number`). Walking
parent pointers from a block gives its ancestors, as long as each parent is
stored. In a store where every stored parent is one lower than its child
(`Numbered`), a block has at most one ancestor at each height.

The second part names lists of heights that go up by one (`Consecutive`),
decidably, so that a concrete chain can be checked.

## Main results

* `AncestorOrSelf.number_le`: an ancestor is not higher.
* `AncestorOrSelf.eq_of_number_eq`: an ancestor at the same height is the
  block itself, so ancestors are determined by their height.
* `Between.mem_iff`, `Between.nodup`, `Between.length_add`: walking parents
  from a block down to one of its ancestors passes each ancestor above it
  once, one height a step.
* `AncestorOrSelf.of_number_le`: ancestors of one block form a chain.
* `DeepestCommon.step_left`, `DeepestCommon.step_right`: the deepest common
  ancestor of two blocks is kept by stepping from either block to its
  parent, above that ancestor.
* `storeOf_numbered`: a store of finitely many blocks is numbered when
  each stored parent is one lower.
-/

namespace GoTen.Verified.Chain

variable {κ β : Type}

/-! ## Ancestry through stored parents -/

section Ancestry

variable (fetch : κ → Option β) (parentKey : β → κ) (number : β → Nat)

/-- `AncestorOrSelf a b`: `a` is `b`, or is reached from `b` by following
stored parents. -/
inductive AncestorOrSelf : β → β → Prop
  | refl (b : β) : AncestorOrSelf b b
  | parent {a b p : β} : fetch (parentKey b) = some p → AncestorOrSelf a p → AncestorOrSelf a b

/-- The stored parent of a stored block is one lower than the block. -/
def Numbered : Prop :=
  ∀ k b p, fetch k = some b → fetch (parentKey b) = some p → number p + 1 = number b

variable {fetch parentKey number}

theorem AncestorOrSelf.trans {a b c : β} (hab : AncestorOrSelf fetch parentKey a b)
    (hbc : AncestorOrSelf fetch parentKey b c) : AncestorOrSelf fetch parentKey a c := by
  induction hbc with
  | refl => exact hab
  | parent hp _ ih => exact .parent hp ih

/-- An ancestor other than the block itself is an ancestor of its parent. -/
theorem AncestorOrSelf.cases_parent {a b : β} (h : AncestorOrSelf fetch parentKey a b) :
    a = b ∨ ∃ p, fetch (parentKey b) = some p ∧ AncestorOrSelf fetch parentKey a p := by
  cases h with
  | refl => exact .inl rfl
  | parent hp ha => exact .inr ⟨_, hp, ha⟩

theorem AncestorOrSelf.number_le (hn : Numbered fetch parentKey number) {k : κ} {a b : β}
    (hb : fetch k = some b) (h : AncestorOrSelf fetch parentKey a b) : number a ≤ number b := by
  induction h generalizing k with
  | refl => exact le_refl _
  | parent hp _ ih =>
      have hlt := hn _ _ _ hb hp
      have hle := ih hp
      omega

/-- A block has one ancestor at its own height: itself. -/
theorem AncestorOrSelf.eq_of_number_eq (hn : Numbered fetch parentKey number) {k : κ} {a b : β}
    (hb : fetch k = some b) (h : AncestorOrSelf fetch parentKey a b)
    (heq : number a = number b) : a = b := by
  rcases h.cases_parent with rfl | ⟨p, hp, ha⟩
  · rfl
  · have hlt := hn _ _ _ hb hp
    have hle := ha.number_le hn hp
    omega

/-! ## Walks down to an ancestor -/

variable (fetch parentKey) in
/-- `Between a b L`: following stored parents from `b` reaches `a`, passing
the blocks `L` on the way, `b` first and `a` excluded. -/
inductive Between : β → β → List β → Prop
  | refl (a : β) : Between a a []
  | parent {a b p : β} {L : List β} :
      fetch (parentKey b) = some p → Between a p L → Between a b (b :: L)

variable (fetch) in
/-- Every stored block is stored under its own key. -/
def Keyed (key : β → κ) : Prop :=
  ∀ k b, fetch k = some b → key b = k

theorem Between.ancestorOrSelf {a b : β} {L : List β} (h : Between fetch parentKey a b L) :
    AncestorOrSelf fetch parentKey a b := by
  induction h with
  | refl => exact .refl _
  | parent hp _ ih => exact .parent hp ih

theorem AncestorOrSelf.between {a b : β} (h : AncestorOrSelf fetch parentKey a b) :
    ∃ L, Between fetch parentKey a b L := by
  induction h with
  | refl => exact ⟨[], .refl _⟩
  | parent hp _ ih =>
      obtain ⟨L, hL⟩ := ih
      exact ⟨_, .parent hp hL⟩

/-- In a keyed store, an ancestor of a stored block is stored under its key. -/
theorem AncestorOrSelf.stored {key : β → κ} (hk : Keyed fetch key) {k : κ} {a b : β}
    (hb : fetch k = some b) (h : AncestorOrSelf fetch parentKey a b) : fetch (key a) = some a := by
  induction h generalizing k with
  | refl =>
      rw [hk k _ hb]
      exact hb
  | parent hp _ ih => exact ih hp

/-- Of two ancestors of one block, the lower is an ancestor of the higher. -/
theorem AncestorOrSelf.of_number_le (hn : Numbered fetch parentKey number) {k : κ}
    {b c q : β} (hb : fetch k = some b) (hc : AncestorOrSelf fetch parentKey c b)
    (hq : AncestorOrSelf fetch parentKey q b) (hle : number c ≤ number q) :
    AncestorOrSelf fetch parentKey c q := by
  induction hq generalizing k with
  | refl => exact hc
  | @parent b p hp hqp ih =>
      rcases hc.cases_parent with rfl | ⟨p', hp', hcp⟩
      · -- `c` is `b` itself, which is higher than its ancestor `q`
        have hstep := hn _ _ _ hb hp
        have hqle := hqp.number_le hn hp
        omega
      · rw [hp] at hp'
        cases hp'
        exact ih hp hcp

/-- Each step of a walk goes one height down. -/
theorem Between.length_add (hn : Numbered fetch parentKey number) {k : κ} {a b : β}
    {L : List β} (hb : fetch k = some b) (h : Between fetch parentKey a b L) :
    L.length + number a = number b := by
  induction h generalizing k with
  | refl => simp
  | parent hp _ ih =>
      have hstep := hn _ _ _ hb hp
      have hrest := ih hp
      rw [List.length_cons]
      omega

/-- The blocks a walk passes are the ancestors of its start above its end. -/
theorem Between.mem_iff (hn : Numbered fetch parentKey number) {k : κ} {a b : β} {L : List β}
    (hb : fetch k = some b) (h : Between fetch parentKey a b L) (c : β) :
    c ∈ L ↔ AncestorOrSelf fetch parentKey c b ∧ number a < number c := by
  induction h generalizing k with
  | refl =>
      simp only [List.not_mem_nil, false_iff, not_and, not_lt]
      intro hc
      exact hc.number_le hn hb
  | @parent b p L hp hrest ih =>
      have hstep := hn _ _ _ hb hp
      have hap := hrest.ancestorOrSelf.number_le hn hp
      rw [List.mem_cons, ih hp]
      constructor
      · rintro (rfl | ⟨hc, hlt⟩)
        · exact ⟨.refl c, by omega⟩
        · exact ⟨.parent hp hc, hlt⟩
      · rintro ⟨hc, hlt⟩
        rcases hc.cases_parent with rfl | ⟨p', hp', hcp⟩
        · exact .inl rfl
        · rw [hp] at hp'
          cases hp'
          exact .inr ⟨hcp, hlt⟩

/-- A walk passes each block once. -/
theorem Between.nodup (hn : Numbered fetch parentKey number) {k : κ} {a b : β} {L : List β}
    (hb : fetch k = some b) (h : Between fetch parentKey a b L) : L.Nodup := by
  induction h generalizing k with
  | refl => exact List.nodup_nil
  | @parent b p L hp hrest ih =>
      have hstep := hn _ _ _ hb hp
      refine List.nodup_cons.mpr ⟨?_, ih hp⟩
      intro hmem
      have hle := ((hrest.mem_iff hn hp b).mp hmem).1.number_le hn hp
      omega

/-- Along a chain of ancestors, the first is an ancestor of the last. -/
theorem ancestorOrSelf_getLast {p : β} {l : List β}
    (h : (p :: l).IsChain (AncestorOrSelf fetch parentKey)) :
    AncestorOrSelf fetch parentKey p ((p :: l).getLast (List.cons_ne_nil p l)) := by
  induction l generalizing p with
  | nil => exact .refl p
  | cons q l ih =>
      rw [List.isChain_cons_cons] at h
      rw [List.getLast_cons_cons]
      exact h.1.trans (ih h.2)

/-- Two blocks that are ancestors of each other are one block. -/
theorem AncestorOrSelf.antisymm (hn : Numbered fetch parentKey number) {k : κ} {a b : β}
    (hb : fetch k = some b) (hab : AncestorOrSelf fetch parentKey a b)
    (hba : AncestorOrSelf fetch parentKey b a) : a = b := by
  rcases hab.cases_parent with heq | ⟨p, hp, hap⟩
  · exact heq
  · -- `b` would be an ancestor of its own parent
    have hstep := hn _ _ _ hb hp
    have hle := (hba.trans hap).number_le hn hp
    omega

/-! ## The deepest common ancestor -/

variable (fetch parentKey) in
/-- `c` is an ancestor-or-self of `a` and of `b`, and every block that is
both is an ancestor-or-self of `c`. -/
def DeepestCommon (c a b : β) : Prop :=
  AncestorOrSelf fetch parentKey c a ∧ AncestorOrSelf fetch parentKey c b ∧
    ∀ d, AncestorOrSelf fetch parentKey d a → AncestorOrSelf fetch parentKey d b →
      AncestorOrSelf fetch parentKey d c

theorem DeepestCommon.symm {c a b : β} (h : DeepestCommon fetch parentKey c a b) :
    DeepestCommon fetch parentKey c b a :=
  ⟨h.2.1, h.1, fun d hb ha => h.2.2 d ha hb⟩

/-- The deepest common ancestor of a block and itself is the block. -/
theorem DeepestCommon.eq_self (hn : Numbered fetch parentKey number) {k : κ} {c a : β}
    (ha : fetch k = some a) (h : DeepestCommon fetch parentKey c a a) : c = a :=
  h.1.antisymm hn ha (h.2.2 a (.refl a) (.refl a))

/-- Two different blocks, `a` not below `b`: their deepest common ancestor is
not `a`. -/
theorem DeepestCommon.ne_left (hn : Numbered fetch parentKey number) {k : κ} {c a b : β}
    (hb : fetch k = some b) (h : DeepestCommon fetch parentKey c a b)
    (hle : number b ≤ number a) (hab : a ≠ b) : c ≠ a := by
  intro hca
  rw [hca] at h
  have hlow := h.2.1.number_le hn hb
  exact hab (h.2.1.eq_of_number_eq hn hb (by omega))

/-- Stepping from `a`, other than the deepest common ancestor, to its
parent keeps that ancestor. -/
theorem DeepestCommon.step_left {c a b : β} (h : DeepestCommon fetch parentKey c a b)
    (hne : c ≠ a) :
    ∃ p, fetch (parentKey a) = some p ∧ DeepestCommon fetch parentKey c p b := by
  rcases h.1.cases_parent with heq | ⟨p, hp, hcp⟩
  · exact absurd heq hne
  · refine ⟨p, hp, hcp, h.2.1, ?_⟩
    intro d hdp hdb
    exact h.2.2 d (hdp.trans (.parent hp (.refl p))) hdb

theorem DeepestCommon.step_right {c a b : β} (h : DeepestCommon fetch parentKey c a b)
    (hne : c ≠ b) :
    ∃ p, fetch (parentKey b) = some p ∧ DeepestCommon fetch parentKey c a p := by
  obtain ⟨p, hp, hd⟩ := h.symm.step_left hne
  exact ⟨p, hp, hd.symm⟩

/-- A store holding the given blocks under their keys. -/
def storeOf [DecidableEq κ] (key : β → κ) (blocks : List β) (k : κ) : Option β :=
  blocks.find? fun b => key b == k

theorem storeOf_key [DecidableEq κ] {key : β → κ} {blocks : List β} {k : κ} {b : β}
    (h : storeOf key blocks k = some b) : key b = k := by
  simpa using List.find?_some h

/-- A store of finitely many blocks is numbered when each block's stored
parent is one lower. -/
theorem storeOf_numbered [DecidableEq κ] {key : β → κ} {blocks : List β}
    (h : ∀ b ∈ blocks, ∀ p ∈ blocks, key p = parentKey b → number p + 1 = number b) :
    Numbered (storeOf key blocks) parentKey number := by
  intro k b p hb hp
  exact h b (List.mem_of_find?_eq_some hb) p (List.mem_of_find?_eq_some hp) (storeOf_key hp)

end Ancestry

/-! ## Consecutive numbering -/

/-- A list of heights that starts at its first element and goes up by one. -/
def Consecutive (l : List Nat) : Prop :=
  l = List.range' (l.headD 0) l.length

instance (l : List Nat) : Decidable (Consecutive l) :=
  inferInstanceAs (Decidable (l = _))

end GoTen.Verified.Chain
