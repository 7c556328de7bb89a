import Mathlib.Data.Nat.ModEq

/-! One's-complement sums of words up to `limit`.

A carry out of the top comes back in at the bottom, so a sum is known up to multiples of
`limit`; zero and `limit` are the two words for zero, and a sum is zero only when every word is.
The residue and this tell sums apart, however their carries were added.
-/

set_option autoImplicit false

namespace ProxyTunnels.Net.OnesComplement

variable {limit : Nat}

def add (limit first second : Nat) : Nat :=
  if first + second ≤ limit then first + second else first + second - limit

def sum (limit : Nat) (words : List Nat) : Nat := words.foldl (add limit) 0

def carry (limit total : Nat) : Nat := total % (limit + 1) + total / (limit + 1)

/-- The word that stands for a total. -/
structure Represents (limit total word : Nat) : Prop where
  bounded : word ≤ limit
  congruent : word ≡ total [MOD limit]
  vanishes : word = 0 ↔ total = 0

theorem Represents.unique {total first second : Nat} (one : Represents limit total first)
    (other : Represents limit total second) : first = second := by
  have same : first ≡ second [MOD limit] := one.congruent.trans other.congruent.symm
  cases first with
  | zero =>
    have none := one.vanishes.mp rfl
    exact (other.vanishes.mpr none).symm
  | succ first =>
    cases second with
    | zero => exact one.vanishes.mpr (other.vanishes.mp rfl)
    | succ second =>
      -- Between one and the limit no two words are congruent.
      have below : first ≡ second [MOD limit] := Nat.ModEq.add_right_cancel' 1 same
      rw [below.eq_of_lt_of_lt one.bounded other.bounded]

theorem represents_self {word : Nat} (bounded : word ≤ limit) : Represents limit word word :=
  ⟨bounded, .refl _, .rfl⟩

theorem add_represents {total word next : Nat} (before : Represents limit total word) (bounded : next ≤ limit) :
    Represents limit (total + next) (add limit word next) := by
  have congruent : word + next ≡ total + next [MOD limit] := before.congruent.add_right next
  have vanishes := before.vanishes
  unfold add
  split
  · next fits =>
    refine ⟨fits, congruent, ?_⟩
    omega
  · next carries =>
    have top := before.bounded
    refine ⟨by omega, ?_, by omega⟩
    have back : word + next - limit + limit = word + next := by omega
    rw [← back] at congruent
    exact (Nat.ModEq.symm (Nat.add_mod_right _ _)).trans congruent

theorem sum_represents_from {words : List Nat} (bounded : ∀ word ∈ words, word ≤ limit) {total start : Nat}
    (before : Represents limit total start) :
    Represents limit (total + words.sum) (words.foldl (add limit) start) := by
  induction words generalizing total start with
  | nil => exact before
  | cons word words ih =>
    have here := add_represents before (bounded word List.mem_cons_self)
    have later := ih (fun other member => bounded other (List.mem_cons_of_mem word member)) here
    rwa [Nat.add_assoc, ← List.sum_cons] at later

theorem sum_represents {words : List Nat} (bounded : ∀ word ∈ words, word ≤ limit) :
    Represents limit words.sum (sum limit words) := by
  have whole := sum_represents_from bounded (represents_self (Nat.zero_le limit))
  rwa [Nat.zero_add] at whole

theorem carry_congruent (total : Nat) : carry limit total ≡ total [MOD limit] := by
  have whole : total % (limit + 1) + total / (limit + 1) + limit * (total / (limit + 1)) = total := by
    have split := Nat.mod_add_div total (limit + 1)
    rw [Nat.succ_mul] at split
    omega
  calc carry limit total ≡ carry limit total + limit * (total / (limit + 1)) [MOD limit] :=
        (Nat.add_mul_mod_self_left _ _ _).symm
    _ = total := whole

theorem carry_eq_zero (total : Nat) : carry limit total = 0 ↔ total = 0 := by
  unfold carry
  constructor
  · intro none
    have split := Nat.mod_add_div total (limit + 1)
    obtain ⟨low, high⟩ := Nat.add_eq_zero_iff.mp none
    rw [low, high] at split
    exact split.symm
  · rintro rfl
    simp

theorem Represents.of_carry {total word : Nat} (folded : Represents limit (carry limit total) word) :
    Represents limit total word :=
  ⟨folded.bounded, folded.congruent.trans (carry_congruent total), folded.vanishes.trans (carry_eq_zero total)⟩

theorem carry_lt {total : Nat} (positive : 0 < limit) (carries : limit < total) : carry limit total < total := by
  have split := Nat.mod_add_div total (limit + 1)
  have some : 0 < total / (limit + 1) := Nat.div_pos carries (Nat.succ_pos limit)
  have more : total / (limit + 1) < (limit + 1) * (total / (limit + 1)) := by
    rw [Nat.succ_mul]
    exact Nat.lt_add_of_pos_left (Nat.mul_pos positive some)
  unfold carry
  omega

/-- A word's complement brings the total it stands for to the word of all ones. -/
theorem complement_represents {total word : Nat} (positive : 0 < limit) (stands : Represents limit total word) :
    Represents limit (total + (limit - word)) limit := by
  have bounded := stands.bounded
  refine ⟨Nat.le_refl limit, ?_, ?_⟩
  · have whole : word + (limit - word) ≡ total + (limit - word) [MOD limit] := stands.congruent.add_right _
    rwa [Nat.add_sub_cancel' bounded] at whole
  · have vanishes := stands.vanishes
    omega

end ProxyTunnels.Net.OnesComplement
