import Mathlib

/-!
# Go maps as association lists

A Go value of type `map[K]V` is a finite partial map. Code that walks it
with `range` sees its entries in an order the runtime chooses; what such a
loop computes here (a count, a sum, the entries a `delete` inside the loop
keeps) does not depend on that order. `GoMap K V` is the list of entries in
the order of one walk, each key once, so that `len(m)`, a count over the
values and a sum over them are computable.

`m[k] = v` replaces the entry of `k` or adds one, `delete(m, k)` removes it,
and a `range` that deletes the entries failing a test is `filter`.

## Main results

* `get?_insert_self`, `get?_insert_of_ne`: reading a key after a write.
* `countP_insert`, `countP_erase_le`, `countP_erase_of_get?`: how a count over
  the values moves when an entry is written.
* `countP_filter_of`, `sumBy_filter_of`: a `range` that deletes only entries
  the count or the sum ignores leaves it unchanged.
-/

namespace GoTen.Verified

/-- A Go map `map[K]V`: its entries in the order of one `range` over it,
each key once. -/
structure GoMap (K V : Type) where
  entries : List (K × V)
  nodup : (entries.map Prod.fst).Nodup

namespace GoMap

variable {K V : Type}

/-- `make(map[K]V)`. -/
def empty : GoMap K V := ⟨[], List.nodup_nil⟩

/-- `v, ok := m[k]`. -/
def get? [BEq K] (m : GoMap K V) (k : K) : Option V := m.entries.lookup k

/-- `len(m)`. -/
def size (m : GoMap K V) : Nat := m.entries.length

/-- A `range` over `m` that deletes every entry failing `keep`. -/
def filter (keep : K → V → Bool) (m : GoMap K V) : GoMap K V :=
  ⟨m.entries.filter (fun e => keep e.1 e.2),
    m.nodup.sublist ((List.filter_sublist).map Prod.fst)⟩

/-- The number of values satisfying `p`. -/
def countP (p : V → Bool) (m : GoMap K V) : Nat := m.entries.countP (fun e => p e.2)

/-- The sum of `f` over the values. -/
def sumBy (f : V → Int) (m : GoMap K V) : Int := (m.entries.map (fun e => f e.2)).sum

@[simp] theorem size_empty : (empty : GoMap K V).size = 0 := rfl

@[simp] theorem countP_empty (p : V → Bool) : (empty : GoMap K V).countP p = 0 := rfl

@[simp] theorem sumBy_empty (f : V → Int) : (empty : GoMap K V).sumBy f = 0 := rfl

theorem countP_filter_le (m : GoMap K V) (keep : K → V → Bool) (p : V → Bool) :
    (m.filter keep).countP p ≤ m.countP p :=
  List.filter_sublist.countP_le

/-- A `range` that deletes only entries the count ignores leaves the count. -/
theorem countP_filter_of (m : GoMap K V) {keep : K → V → Bool} {p : V → Bool}
    (h : ∀ e ∈ m.entries, keep e.1 e.2 = false → p e.2 = false) :
    (m.filter keep).countP p = m.countP p := by
  simp only [countP, filter]
  rw [List.countP_eq_countP_filter_add m.entries _ (fun e => keep e.1 e.2), Nat.left_eq_add]
  apply List.countP_eq_zero.mpr
  intro e he
  rw [List.mem_filter] at he
  simpa using h e he.1 (by simpa using he.2)

theorem sum_map_filter_of {l : List (K × V)} {keep : K → V → Bool} {f : V → Int}
    (h : ∀ e ∈ l, keep e.1 e.2 = false → f e.2 = 0) :
    ((l.filter (fun e => keep e.1 e.2)).map (fun e => f e.2)).sum = (l.map (fun e => f e.2)).sum := by
  induction l with
  | nil => rfl
  | cons e l ih =>
    have ht := ih (fun e' he' => h e' (List.mem_cons_of_mem _ he'))
    cases hk : keep e.1 e.2
    · simp [hk, ht, h e List.mem_cons_self hk]
    · simp [hk, ht]

/-- A `range` that deletes only entries the sum ignores leaves the sum. -/
theorem sumBy_filter_of (m : GoMap K V) {keep : K → V → Bool} {f : V → Int}
    (h : ∀ e ∈ m.entries, keep e.1 e.2 = false → f e.2 = 0) :
    (m.filter keep).sumBy f = m.sumBy f :=
  sum_map_filter_of h

theorem countP_of_size_eq_zero {m : GoMap K V} (h : m.size = 0) (p : V → Bool) :
    m.countP p = 0 := by
  simp [countP, List.eq_nil_of_length_eq_zero h]

theorem sumBy_of_size_eq_zero {m : GoMap K V} (h : m.size = 0) (f : V → Int) :
    m.sumBy f = 0 := by
  simp [sumBy, List.eq_nil_of_length_eq_zero h]

variable [DecidableEq K]

/-- `delete(m, k)`. -/
def erase (m : GoMap K V) (k : K) : GoMap K V := m.filter (fun k' _ => k' != k)

theorem not_mem_keys_erase (m : GoMap K V) (k : K) :
    k ∉ (m.erase k).entries.map Prod.fst := by
  simp [erase, filter]

/-- `m[k] = v`. -/
def insert (m : GoMap K V) (k : K) (v : V) : GoMap K V :=
  ⟨(k, v) :: (m.erase k).entries,
    List.nodup_cons.mpr ⟨m.not_mem_keys_erase k, (m.erase k).nodup⟩⟩

@[simp] theorem get?_empty (k : K) : (empty : GoMap K V).get? k = none := rfl

@[simp] theorem get?_insert_self (m : GoMap K V) (k : K) (v : V) :
    (m.insert k v).get? k = some v := by
  simp [get?, insert]

theorem lookup_filter_ne {l : List (K × V)} {k k' : K} (hne : k' ≠ k) :
    (l.filter (fun e => e.1 != k)).lookup k' = l.lookup k' := by
  induction l with
  | nil => rfl
  | cons e l ih =>
    obtain ⟨a, b⟩ := e
    by_cases ha : a = k
    · subst ha
      have hka : (k' == a) = false := by simpa using hne
      simp [List.lookup_cons, hka, ih]
    · simp only [List.filter_cons, bne_iff_ne, ne_eq, ha, not_false_eq_true, if_true,
        List.lookup_cons]
      split <;> simp_all

theorem get?_insert_of_ne (m : GoMap K V) {k k' : K} (v : V) (hne : k' ≠ k) :
    (m.insert k v).get? k' = m.get? k' := by
  have hkk : (k' == k) = false := by simpa using hne
  simp only [get?, insert, erase, filter, List.lookup_cons, hkk]
  exact lookup_filter_ne hne

theorem lookup_eq_none_iff {l : List (K × V)} {k : K} :
    l.lookup k = none ↔ ∀ v, (k, v) ∉ l := by
  induction l with
  | nil => simp
  | cons e l ih =>
    obtain ⟨a, b⟩ := e
    by_cases hka : k = a
    · subst hka
      simp only [List.lookup_cons, beq_self_eq_true, reduceCtorEq, false_iff, not_forall,
        not_not]
      exact ⟨b, List.mem_cons_self⟩
    · have hb : (k == a) = false := by simpa using hka
      simp [List.lookup_cons, hb, ih, hka]

theorem countP_insert (m : GoMap K V) (k : K) (v : V) (p : V → Bool) :
    (m.insert k v).countP p = (m.erase k).countP p + if p v then 1 else 0 := by
  simp [countP, insert, List.countP_cons]

theorem countP_erase_le (m : GoMap K V) (k : K) (p : V → Bool) :
    (m.erase k).countP p ≤ m.countP p :=
  m.countP_filter_le _ p

/-- Deleting a key that is not there changes nothing. -/
theorem erase_of_get? {m : GoMap K V} {k : K} (h : m.get? k = none) :
    (m.erase k).entries = m.entries := by
  have hnot := lookup_eq_none_iff.mp h
  apply List.filter_eq_self.mpr
  rintro ⟨a, b⟩ hab
  have hne : a ≠ k := by
    rintro rfl
    exact hnot b hab
  simpa using hne

theorem countP_erase_of_get? {m : GoMap K V} {k : K} (h : m.get? k = none) (p : V → Bool) :
    (m.erase k).countP p = m.countP p := by
  simp only [countP, erase_of_get? h]

end GoMap

end GoTen.Verified
