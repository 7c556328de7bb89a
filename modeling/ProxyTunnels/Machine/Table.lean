import Mathlib.Algebra.BigOperators.Group.List.Basic
import Mathlib.Algebra.Ring.Nat
import Mathlib.Data.List.Perm.Basic

/-! Tables of holders, slabs with recycled indices, and unordered removal.

`total` weighs a table entry by entry; replacing one entry moves the total by the
difference of two weights, which is how an ownership count follows one transfer.
A `Slab` is a list of places, each taken or free, whose freed indices may be
handed out again. `swapRemove` fills the hole with the last entry.
-/

set_option autoImplicit false

namespace ProxyTunnels.Machine

section Totals
variable {α : Type}

def total (weight : α → Nat) (table : List α) : Nat := (table.map weight).sum

@[simp] theorem total_nil (weight : α → Nat) : total weight [] = 0 := rfl

@[simp] theorem total_cons (weight : α → Nat) (head : α) (rest : List α) :
    total weight (head :: rest) = weight head + total weight rest := by
  simp [total]

@[simp] theorem total_append (weight : α → Nat) (first second : List α) :
    total weight (first ++ second) = total weight first + total weight second := by
  simp [total]

theorem total_perm (weight : α → Nat) {first second : List α} (same : first.Perm second) :
    total weight first = total weight second :=
  (same.map weight).sum_eq

theorem total_eq_zero {weight : α → Nat} {table : List α} (weightless : ∀ entry ∈ table, weight entry = 0) :
    total weight table = 0 := by
  induction table with
  | nil => rfl
  | cons head rest ih =>
    rw [total_cons, weightless head List.mem_cons_self, ih fun entry member =>
      weightless entry (List.mem_cons_of_mem _ member)]

/-- Replacing one holder exchanges its weight for the new one's. -/
theorem total_set (weight : α → Nat) {table : List α} {index : Nat} {old : α}
    (found : table[index]? = some old) (new : α) :
    total weight (table.set index new) + weight old = total weight table + weight new := by
  induction table generalizing index with
  | nil => simp at found
  | cons head rest ih =>
    cases index with
    | zero =>
      simp only [List.getElem?_cons_zero, Option.some.injEq] at found
      subst found
      simp only [List.set_cons_zero, total_cons]
      omega
    | succ index =>
      have step := ih (by simpa using found)
      simp only [List.set_cons_succ, total_cons]
      omega

theorem le_total (weight : α → Nat) {table : List α} {index : Nat} {entry : α}
    (found : table[index]? = some entry) : weight entry ≤ total weight table := by
  induction table generalizing index with
  | nil => simp at found
  | cons head rest ih =>
    cases index with
    | zero =>
      simp only [List.getElem?_cons_zero, Option.some.injEq] at found
      subst found
      simp
    | succ index =>
      have bound := ih (by simpa using found)
      simp only [total_cons]
      omega

theorem le_total_pair (weight : α → Nat) {table : List α} {index other : Nat} {first second : α}
    (found : table[index]? = some first) (there : table[other]? = some second) (apart : index ≠ other) :
    weight first + weight second ≤ total weight table := by
  induction table generalizing index other with
  | nil => simp at found
  | cons head rest ih =>
    cases index with
    | zero =>
      cases other with
      | zero => exact absurd rfl apart
      | succ other =>
        have bound := le_total weight (List.getElem?_cons_succ ▸ there)
        simp only [List.getElem?_cons_zero, Option.some.injEq] at found
        subst found
        rw [total_cons]
        omega
    | succ index =>
      cases other with
      | zero =>
        have bound := le_total weight (List.getElem?_cons_succ ▸ found)
        simp only [List.getElem?_cons_zero, Option.some.injEq] at there
        subst there
        rw [total_cons]
        omega
      | succ other =>
        have bound := ih (List.getElem?_cons_succ ▸ found) (List.getElem?_cons_succ ▸ there) (by omega)
        rw [total_cons]
        omega

theorem mem_set_cases {table : List α} {index other : Nat} {new entry : α}
    (found : (table.set index new)[other]? = some entry) :
    (other = index ∧ entry = new) ∨ (other ≠ index ∧ table[other]? = some entry) := by
  rw [List.getElem?_set] at found
  by_cases same : index = other
  · rw [if_pos same] at found
    split at found
    · exact Or.inl ⟨same.symm, (Option.some.inj found).symm⟩
    · cases found
  · rw [if_neg same] at found
    exact Or.inr ⟨Ne.symm same, found⟩

theorem getElem?_set_found {table : List α} {index : Nat} {old new : α} (found : table[index]? = some old) :
    (table.set index new)[index]? = some new :=
  List.getElem?_set_self (List.getElem?_eq_some_iff.mp found).1

theorem mem_set_found {table : List α} {index : Nat} {old new : α} (found : table[index]? = some old) :
    new ∈ table.set index new :=
  List.mem_of_getElem? (getElem?_set_found found)

theorem mem_concat_cases {table : List α} {other : Nat} {new entry : α}
    (found : (table ++ [new])[other]? = some entry) :
    (other = table.length ∧ entry = new) ∨ table[other]? = some entry := by
  rcases Nat.lt_trichotomy other table.length with before | rfl | beyond
  · rw [List.getElem?_append_left before] at found
    exact Or.inr found
  · simp only [List.getElem?_concat_length, Option.some.injEq] at found
    exact Or.inl ⟨rfl, found.symm⟩
  · have outside : (table ++ [new]).length ≤ other := by
      rw [List.length_append, List.length_singleton]
      exact beyond
    rw [List.getElem?_eq_none outside] at found
    cases found

theorem getElem?_set_append_cases {table more : List α} {index other : Nat} {new entry : α}
    (found : (table.set index new ++ more)[other]? = some entry) :
    (other = index ∧ entry = new) ∨ (other ≠ index ∧ table[other]? = some entry) ∨
      (table.length ≤ other ∧ entry ∈ more) := by
  by_cases inside : other < (table.set index new).length
  · rw [List.getElem?_append_left inside] at found
    rcases mem_set_cases found with here | elsewhere
    · exact Or.inl here
    · exact Or.inr (Or.inl elsewhere)
  · rw [List.getElem?_append_right (by omega)] at found
    rw [List.length_set] at inside
    exact Or.inr (Or.inr ⟨by omega, List.mem_of_getElem? found⟩)

theorem getElem?_set_append_ne {table more : List α} {index other : Nat} {entry new : α}
    (found : table[index]? = some entry) (elsewhere : other ≠ index) :
    (table.set other new ++ more)[index]? = some entry := by
  have inside := (List.getElem?_eq_some_iff.mp found).1
  rw [List.getElem?_append_left (by simpa using inside), List.getElem?_set_ne elsewhere, found]

theorem getElem?_set_append_self {table more : List α} {index : Nat} {entry : α}
    (found : table[index]? = some entry) (new : α) : (table.set index new ++ more)[index]? = some new := by
  have inside := (List.getElem?_eq_some_iff.mp found).1
  rw [List.getElem?_append_left (by simpa using inside), List.getElem?_set_self inside]

theorem forall_mem_set_append {holds : α → Prop} {table more : List α} {index : Nat} {new : α}
    (old : ∀ entry ∈ table, holds entry) (changed : holds new) (added : ∀ entry ∈ more, holds entry) :
    ∀ entry ∈ table.set index new ++ more, holds entry := by
  intro entry member
  rcases List.mem_append.mp member with inside | beyond
  · rcases List.mem_or_eq_of_mem_set inside with kept | same
    · exact old entry kept
    · exact same ▸ changed
  · exact added entry beyond

theorem total_add (first second : α → Nat) (table : List α) :
    total (fun entry => first entry + second entry) table = total first table + total second table := by
  induction table with
  | nil => rfl
  | cons head rest ih =>
    simp only [total_cons, ih]
    omega

theorem total_congr {first second : α → Nat} {table : List α}
    (same : ∀ entry ∈ table, first entry = second entry) :
    total first table = total second table := by
  unfold total
  rw [List.map_congr_left same]

end Totals

section Removal
variable {α : Type}

/-- Take the entry at `index` out and put the last entry in its place. -/
def swapRemove (table : List α) (index : Nat) : List α :=
  match table.getLast? with
  | none => []
  | some last => (table.set index last).dropLast

theorem cons_set_perm {table : List α} {index : Nat} {old : α}
    (found : table[index]? = some old) (new : α) :
    (old :: table.set index new).Perm (new :: table) := by
  induction table generalizing index with
  | nil => simp at found
  | cons head rest ih =>
    cases index with
    | zero =>
      simp only [List.getElem?_cons_zero, Option.some.injEq] at found
      subst found
      exact List.Perm.swap _ _ _
    | succ index =>
      have inner := @ih index (by simpa using found)
      exact (List.Perm.swap _ _ _).trans ((inner.cons head).trans (List.Perm.swap _ _ _))

theorem flatMap_set_perm {β : Type} (collect : α → List β) {table : List α} {index : Nat} {old : α}
    (found : table[index]? = some old) (new : α) :
    (collect old ++ (table.set index new).flatMap collect).Perm (collect new ++ table.flatMap collect) := by
  simpa only [List.flatMap_cons] using (cons_set_perm found new).flatMap_right collect

theorem swapRemove_concat (front : List α) (last : α) (index : Nat) :
    swapRemove (front ++ [last]) index =
      if index < front.length then front.set index last else front := by
  simp only [swapRemove, List.getLast?_append, List.getLast?_singleton, Option.some_or]
  by_cases inside : index < front.length
  · rw [if_pos inside, List.set_append_left _ _ inside, List.dropLast_concat]
  · rw [if_neg inside, List.set_append_right _ _ (by omega)]
    cases index - front.length with
    | zero => exact List.dropLast_concat
    | succ n => exact List.dropLast_concat

theorem swapRemove_perm {table : List α} {index : Nat} {entry : α}
    (found : table[index]? = some entry) : (entry :: swapRemove table index).Perm table := by
  rcases List.eq_nil_or_concat table with rfl | ⟨front, last, rfl⟩
  · simp at found
  · rw [List.concat_eq_append] at found ⊢
    rw [swapRemove_concat]
    by_cases inside : index < front.length
    · rw [if_pos inside]
      rw [List.getElem?_append_left inside] at found
      exact (cons_set_perm found last).trans (List.perm_append_singleton last front).symm
    · obtain ⟨bound, value⟩ := List.getElem?_eq_some_iff.mp found
      have atEnd : index = front.length := by
        simp only [List.length_append, List.length_singleton] at bound
        omega
      subst atEnd
      have same : last = entry := by simpa using value
      subst same
      rw [if_neg (Nat.lt_irrefl _)]
      exact (List.perm_append_singleton last front).symm

theorem take_swapRemove {table : List α} {index : Nat} (within : index < table.length) :
    (swapRemove table index).take index = table.take index := by
  rcases List.eq_nil_or_concat table with rfl | ⟨front, last, rfl⟩
  · rfl
  · rw [List.concat_eq_append, List.length_append, List.length_singleton] at within
    rw [List.concat_eq_append, swapRemove_concat, List.take_append_of_le_length (Nat.le_of_lt_succ within)]
    split
    · exact List.take_set_of_le (Nat.le_refl index)
    · rfl

theorem take_cons_drop {table : List α} {index : Nat} {entry : α} (found : table[index]? = some entry) :
    table.take index ++ entry :: table.drop (index + 1) = table := by
  obtain ⟨inside, rfl⟩ := List.getElem?_eq_some_iff.mp found
  rw [← List.drop_eq_getElem_cons inside, List.take_append_drop]

theorem drop_swapRemove_perm {table : List α} {index : Nat} {entry : α} (found : table[index]? = some entry) :
    ((swapRemove table index).drop index).Perm (table.drop (index + 1)) := by
  have inside := (List.getElem?_eq_some_iff.mp found).1
  have parts : swapRemove table index = table.take index ++ (swapRemove table index).drop index := by
    rw [← take_swapRemove inside, List.take_append_drop]
  have shuffled : (entry :: swapRemove table index).Perm (entry :: (table.take index ++ table.drop (index + 1))) := by
    refine (swapRemove_perm found).trans ?_
    nth_rewrite 1 [← take_cons_drop found]
    exact List.perm_middle
  rw [parts] at shuffled
  exact (List.perm_append_left_iff _).mp (List.Perm.cons_inv shuffled)

end Removal

section Slabs
variable {α : Type}

/-- Places that are taken (`some`) or free (`none`); an index names a place. -/
abbrev Slab (α : Type) := List (Option α)

def Slab.get (slab : Slab α) (index : Nat) : Option α := (slab[index]?).join

/-- The indices an insertion may choose: a freed place, or the next fresh one. -/
def Slab.Vacant (slab : Slab α) (index : Nat) : Prop :=
  slab[index]? = some none ∨ index = slab.length

instance (slab : Slab α) (index : Nat) : Decidable (slab.Vacant index) :=
  have : Decidable (slab[index]? = some none) :=
    match slab[index]? with
    | none => isFalse (by simp)
    | some none => isTrue rfl
    | some (some _) => isFalse (by simp)
  inferInstanceAs (Decidable (_ ∨ _))

def Slab.insert (slab : Slab α) (index : Nat) (value : α) : Slab α :=
  if index < slab.length then slab.set index (some value) else slab ++ [some value]

def Slab.replace (slab : Slab α) (index : Nat) (value : α) : Slab α :=
  slab.set index (some value)

def Slab.remove (slab : Slab α) (index : Nat) : Slab α := slab.set index none

theorem Slab.get_eq_some {slab : Slab α} {index : Nat} {value : α} :
    slab.get index = some value ↔ slab[index]? = some (some value) := by
  simp [get, Option.join_eq_some_iff]

theorem Slab.Vacant.get_eq_none {slab : Slab α} {index : Nat} (vacant : slab.Vacant index) :
    slab.get index = none := by
  rcases vacant with freed | fresh
  · simp [get, freed]
  · simp [get, fresh]

theorem Slab.get_insert {slab : Slab α} {index : Nat} (vacant : slab.Vacant index) (value : α)
    (other : Nat) :
    (slab.insert index value).get other = if other = index then some value else slab.get other := by
  unfold Slab.insert
  by_cases inside : index < slab.length
  · rw [if_pos inside]
    by_cases same : other = index
    · subst same
      simp [get, inside]
    · simp [get, same, List.getElem?_set_ne (Ne.symm same)]
  · have atEnd : index = slab.length := by
      rcases vacant with freed | fresh
      · exact absurd (List.getElem?_eq_some_iff.mp freed).1 inside
      · exact fresh
    rw [if_neg inside]
    subst atEnd
    by_cases same : other = slab.length
    · subst same
      simp [get]
    · rw [if_neg same]
      by_cases before : other < slab.length
      · simp [get, List.getElem?_append_left before]
      · have beyond : slab.length < other := by omega
        have outside : (slab ++ [some value])[other]? = none := by
          rw [List.getElem?_eq_none_iff]
          simp only [List.length_append, List.length_singleton]
          omega
        simp [get, outside, List.getElem?_eq_none (Nat.le_of_lt beyond)]

theorem Slab.get_replace {slab : Slab α} {index : Nat} {old : α} (taken : slab.get index = some old)
    (value : α) (other : Nat) :
    (slab.replace index value).get other = if other = index then some value else slab.get other := by
  have inside := (List.getElem?_eq_some_iff.mp (get_eq_some.mp taken)).1
  by_cases same : other = index
  · subst same
    simp [get, replace, inside]
  · simp [get, replace, same, List.getElem?_set_ne (Ne.symm same)]

theorem Slab.get_remove (slab : Slab α) (index other : Nat) :
    (slab.remove index).get other = if other = index then none else slab.get other := by
  by_cases same : other = index
  · subst same
    by_cases inside : other < slab.length
    · simp [get, remove, inside]
    · have outside : (List.set slab other none)[other]? = none :=
        List.getElem?_eq_none (by simpa using inside)
      simp [get, remove, outside]
  · simp [get, remove, same, List.getElem?_set_ne (Ne.symm same)]

def Slab.mapIdx (change : Nat → α → α) (slab : Slab α) : Slab α :=
  List.mapIdx (fun index place => place.map (change index)) slab

@[simp] theorem Slab.get_mapIdx (change : Nat → α → α) (slab : Slab α) (index : Nat) :
    (slab.mapIdx change).get index = (slab.get index).map (change index) := by
  cases place : slab[index]? with
  | none => simp [get, mapIdx, place]
  | some value => cases value <;> simp [get, mapIdx, place]

/-- Every value of interest that `after` has was at its place before. -/
def Slab.Inherits (concerns : α → Prop) (before after : Slab α) : Prop :=
  ∀ index value, concerns value → after.get index = some value → before.get index = some value

variable {concerns : α → Prop} {before middle after : Slab α}

theorem Slab.Inherits.refl (slab : Slab α) : Slab.Inherits concerns slab slab := fun _ _ _ found => found

theorem Slab.Inherits.trans (first : Slab.Inherits concerns before middle)
    (second : Slab.Inherits concerns middle after) : Slab.Inherits concerns before after :=
  fun index value met found => first index value met (second index value met found)

theorem Slab.inherits_set {slab : Slab α} {index : Nat} {place : Option α}
    (apart : ∀ value, place = some value → ¬ concerns value) :
    Slab.Inherits concerns slab (List.set slab index place) := by
  intro other value met found
  rw [Slab.get_eq_some] at found ⊢
  rcases mem_set_cases found with ⟨_, written⟩ | ⟨_, kept⟩
  · exact absurd met (apart value written.symm)
  · exact kept

theorem Slab.inherits_insert {slab : Slab α} {index : Nat} {value : α} (apart : ¬ concerns value) :
    Slab.Inherits concerns slab (slab.insert index value) := by
  unfold Slab.insert
  split
  · exact Slab.inherits_set fun other written => Option.some.inj written ▸ apart
  · intro other entry met found
    rw [Slab.get_eq_some] at found ⊢
    rcases mem_concat_cases found with ⟨_, new⟩ | kept
    · exact absurd (Option.some.inj new ▸ met) apart
    · exact kept

def Slab.values (slab : Slab α) : List α := slab.filterMap id

end Slabs

end ProxyTunnels.Machine
