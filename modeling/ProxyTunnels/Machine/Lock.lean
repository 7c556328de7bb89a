import ProxyTunnels.Machine.Table

/-! One lock among the entries of a table.

Each entry says whether it is inside the section the lock guards. The lock is free when
none is; whoever takes a free lock is alone inside, and stays alone until it leaves.
-/

set_option autoImplicit false

namespace ProxyTunnels.Machine
variable {α : Type} {holds : α → Bool} {table : List α} {index : Nat} {old new : α}

def LockFree (holds : α → Bool) (table : List α) : Bool := table.all fun entry => !holds entry

def Exclusive (holds : α → Bool) (table : List α) : Prop :=
  ∀ (first second : Nat) (one other : α), table[first]? = some one → table[second]? = some other →
    holds one = true → holds other = true → first = second

theorem not_holds_of_lockFree (free : LockFree holds table = true) {entry : α} (member : entry ∈ table) :
    holds entry = false := by
  have outside := List.all_eq_true.mp free entry member
  simpa using outside

theorem exclusive_nil : Exclusive holds ([] : List α) := by
  intro first second one other found
  cases found

theorem Exclusive.concat (alone : Exclusive holds table) (outside : holds new = false) :
    Exclusive holds (table ++ [new]) := by
  intro first second one other found there inside within
  rcases mem_concat_cases found with ⟨-, rfl⟩ | found
  · rw [outside] at inside
    cases inside
  rcases mem_concat_cases there with ⟨-, rfl⟩ | there
  · rw [outside] at within
    cases within
  exact alone first second one other found there inside within

theorem Exclusive.set (alone : Exclusive holds table) (found : table[index]? = some old)
    (kept : holds new = true → holds old = true) : Exclusive holds (table.set index new) := by
  intro first second one other here there inside within
  rcases mem_set_cases here with ⟨rfl, rfl⟩ | ⟨-, unmoved⟩
  · rcases mem_set_cases there with ⟨same, rfl⟩ | ⟨-, elsewhere⟩
    · exact same.symm
    · exact alone _ _ _ _ found elsewhere (kept inside) within
  · rcases mem_set_cases there with ⟨rfl, rfl⟩ | ⟨-, elsewhere⟩
    · exact alone _ _ _ _ unmoved found inside (kept within)
    · exact alone _ _ _ _ unmoved elsewhere inside within

theorem exclusive_of_lockFree (free : LockFree holds table = true) : Exclusive holds (table.set index new) := by
  have nobody : ∀ (place : Nat) (entry : α), table[place]? = some entry → holds entry ≠ true := by
    intro place entry found inside
    rw [not_holds_of_lockFree free (List.mem_of_getElem? found)] at inside
    cases inside
  intro first second one other here there inside within
  rcases mem_set_cases here with ⟨rfl, rfl⟩ | ⟨-, here⟩
  · rcases mem_set_cases there with ⟨same, rfl⟩ | ⟨-, there⟩
    · exact same.symm
    · exact absurd within (nobody _ _ there)
  · exact absurd inside (nobody _ _ here)

theorem Exclusive.turn (alone : Exclusive holds table) (found : table[index]? = some old)
    (entitled : holds new = true → holds old = true ∨ LockFree holds table = true) :
    Exclusive holds (table.set index new) := by
  by_cases locked : holds new = true
  · rcases entitled locked with inside | free
    · exact alone.set found fun _ => inside
    · exact exclusive_of_lockFree free
  · exact alone.set found fun inside => absurd inside locked

theorem Exclusive.outside (alone : Exclusive holds table) (found : table[index]? = some old)
    (inside : holds old = true) {other : Nat} {entry : α} (there : table[other]? = some entry)
    (apart : other ≠ index) : holds entry = false := by
  cases within : holds entry with
  | false => rfl
  | true => exact absurd (alone _ _ _ _ there found within inside) apart

end ProxyTunnels.Machine
