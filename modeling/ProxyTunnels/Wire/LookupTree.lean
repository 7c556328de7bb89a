import ProxyTunnels.Wire.Bits

/-! Prefix codes read through tables that look at several bits at once.

A table of some width is indexed with that many bits; an entry is a symbol or another
table. `walk` reads one symbol off a bit string, `Spells` reads symbols until the bits
run out in the middle of a table or an index has no entry.
-/

set_option autoImplicit false

namespace ProxyTunnels.Wire

variable {α : Type}

inductive LookupTree (α : Type) where
  | symbol (value : α)
  | table (width : Nat) (entries : List (LookupTree α))

inductive Walk (α : Type) where
  | symbol (value : α) (rest : List Bool)
  /-- fewer bits are left than the table looks at -/
  | short (rest : List Bool)
  | missing (index : Nat) (rest : List Bool)
  deriving DecidableEq

mutual

def LookupTree.walk : LookupTree α → List Bool → Walk α
  | .symbol value, string => .symbol value string
  | .table width entries, string =>
      if string.length < width then .short string
      else walkEntry entries (bitsValue (string.take width)) (bitsValue (string.take width)) (string.drop width)

/-- Goes to the entry that is `steps` further; `index` is where the table was entered. -/
def walkEntry : List (LookupTree α) → Nat → Nat → List Bool → Walk α
  | [], _, index, rest => .missing index rest
  | entry :: _, 0, _, rest => entry.walk rest
  | _ :: entries, steps + 1, index, rest => walkEntry entries steps index rest

end

mutual

def LookupTree.codes : LookupTree α → List (List Bool × α)
  | .symbol value => [([], value)]
  | .table width entries => entryCodes width 0 entries

def entryCodes (width : Nat) : Nat → List (LookupTree α) → List (List Bool × α)
  | _, [] => []
  | index, entry :: entries =>
      (entry.codes.map fun code => (lowBits width index ++ code.1, code.2)) ++ entryCodes width (index + 1) entries

end

mutual

/-- Every table's width and number of entries satisfy `admitted`. -/
def LookupTree.tables (admitted : Nat → Nat → Bool) : LookupTree α → Bool
  | .symbol _ => true
  | .table width entries => admitted width entries.length && entryTables admitted entries

def entryTables (admitted : Nat → Nat → Bool) : List (LookupTree α) → Bool
  | [] => true
  | entry :: entries => entry.tables admitted && entryTables admitted entries

end

mutual

theorem LookupTree.walk_append {value : α} {rest : List Bool} (more : List Bool) :
    ∀ (tree : LookupTree α) {string : List Bool}, tree.walk string = .symbol value rest →
      tree.walk (string ++ more) = .symbol value (rest ++ more)
  | .symbol _, string, read => by
      simp only [LookupTree.walk, Walk.symbol.injEq] at read ⊢
      exact ⟨read.1, by rw [read.2]⟩
  | .table width entries, string, read => by
      simp only [LookupTree.walk] at read ⊢
      by_cases short : string.length < width
      · rw [if_pos short] at read
        cases read
      · have enough : width ≤ string.length := Nat.le_of_not_lt short
        rw [if_neg short] at read
        rw [if_neg (by rw [List.length_append]; omega), List.take_append_of_le_length enough,
          List.drop_append_of_le_length enough]
        exact walkEntry_append more entries _ _ read

theorem walkEntry_append {value : α} {rest : List Bool} (more : List Bool) :
    ∀ (entries : List (LookupTree α)) (steps index : Nat) {string : List Bool},
      walkEntry entries steps index string = .symbol value rest →
      walkEntry entries steps index (string ++ more) = .symbol value (rest ++ more)
  | [], steps, index, string, read => by
      simp only [walkEntry] at read
      cases read
  | entry :: _, 0, index, string, read => by
      simp only [walkEntry] at read ⊢
      exact entry.walk_append more read
  | _ :: entries, steps + 1, index, string, read => by
      simp only [walkEntry] at read ⊢
      exact walkEntry_append more entries steps index read

end

mutual

theorem LookupTree.mem_codes_of_walk {value : α} {rest : List Bool} :
    ∀ (tree : LookupTree α) {string : List Bool}, tree.walk string = .symbol value rest →
      ∃ code, (code, value) ∈ tree.codes ∧ string = code ++ rest
  | .symbol symbol, string, read => by
      simp only [LookupTree.walk, Walk.symbol.injEq] at read
      exact ⟨[], by simp [LookupTree.codes, read.1], read.2⟩
  | .table width entries, string, read => by
      simp only [LookupTree.walk] at read
      by_cases short : string.length < width
      · rw [if_pos short] at read
        cases read
      · rw [if_neg short] at read
        obtain ⟨code, found, same⟩ := mem_entryCodes_of_walk width entries _ _ 0 read
        have index : lowBits width (0 + bitsValue (string.take width)) = string.take width := by
          have length : (string.take width).length = width := List.length_take_of_le (Nat.le_of_not_lt short)
          have bits := lowBits_bitsValue (string.take width)
          rwa [length, ← Nat.zero_add (bitsValue _)] at bits
        rw [index] at found
        exact ⟨string.take width ++ code, found, by rw [List.append_assoc, ← same, List.take_append_drop]⟩

theorem mem_entryCodes_of_walk {value : α} {rest : List Bool} (width : Nat) :
    ∀ (entries : List (LookupTree α)) (steps index first : Nat) {string : List Bool},
      walkEntry entries steps index string = .symbol value rest →
      ∃ code, (lowBits width (first + steps) ++ code, value) ∈ entryCodes width first entries ∧
        string = code ++ rest
  | [], steps, index, first, string, read => by
      simp only [walkEntry] at read
      cases read
  | entry :: entries, 0, index, first, string, read => by
      simp only [walkEntry] at read
      obtain ⟨code, found, same⟩ := entry.mem_codes_of_walk read
      refine ⟨code, ?_, same⟩
      simp only [entryCodes, List.mem_append, List.mem_map]
      exact .inl ⟨(code, value), found, rfl⟩
  | _ :: entries, steps + 1, index, first, string, read => by
      simp only [walkEntry] at read
      obtain ⟨code, found, same⟩ := mem_entryCodes_of_walk width entries steps index (first + 1) read
      refine ⟨code, ?_, same⟩
      rw [Nat.add_right_comm, Nat.add_assoc] at found
      simp only [entryCodes, List.mem_append]
      exact .inr found

end

mutual

/-- A code of a tree leads to its symbol, where no table has entries its width cannot reach. -/
theorem LookupTree.walk_of_mem_codes {admitted : Nat → Nat → Bool}
    (fits : ∀ width count, admitted width count = true → count ≤ 2 ^ width) {value : α} :
    ∀ (tree : LookupTree α) {code : List Bool}, tree.tables admitted = true → (code, value) ∈ tree.codes →
      tree.walk code = .symbol value []
  | .symbol symbol, code, _, listed => by
      simp only [LookupTree.codes, List.mem_singleton, Prod.mk.injEq] at listed
      rw [listed.1, listed.2]
      rfl
  | .table width entries, code, sound, listed => by
      simp only [LookupTree.tables, Bool.and_eq_true] at sound
      simp only [LookupTree.codes] at listed
      obtain ⟨steps, inner, reached, same, walked⟩ := walk_of_mem_entryCodes fits width entries 0 sound.2 listed
      have small : 0 + steps < 2 ^ width := by
        have most := fits _ _ sound.1
        omega
      subst same
      have length : (lowBits width (0 + steps)).length = width := length_lowBits _ _
      rw [LookupTree.walk, if_neg (by rw [List.length_append, length]; omega),
        List.take_left' length, List.drop_left' length, bitsValue_lowBits small, Nat.zero_add]
      exact walked _

theorem walk_of_mem_entryCodes {admitted : Nat → Nat → Bool}
    (fits : ∀ width count, admitted width count = true → count ≤ 2 ^ width) {value : α} (width : Nat) :
    ∀ (entries : List (LookupTree α)) (first : Nat) {code : List Bool}, entryTables admitted entries = true →
      (code, value) ∈ entryCodes width first entries →
      ∃ steps inner, steps < entries.length ∧ code = lowBits width (first + steps) ++ inner ∧
        ∀ index, walkEntry entries steps index inner = .symbol value []
  | [], first, code, _, listed => by
      simp only [entryCodes] at listed
      cases listed
  | entry :: entries, first, code, sound, listed => by
      simp only [entryTables, Bool.and_eq_true] at sound
      simp only [entryCodes, List.mem_append, List.mem_map, Prod.mk.injEq] at listed
      rcases listed with ⟨⟨inner, symbol⟩, listed, same, rfl⟩ | listed
      · exact ⟨0, inner, Nat.succ_pos _, same.symm, fun _ => entry.walk_of_mem_codes fits sound.1 listed⟩
      · obtain ⟨steps, inner, reached, same, walked⟩ :=
          walk_of_mem_entryCodes fits width entries (first + 1) sound.2 listed
        refine ⟨steps + 1, inner, Nat.succ_lt_succ reached, ?_, walked⟩
        rw [same, Nat.add_right_comm, Nat.add_assoc]

end

/-- Symbols read off a string until a walk ends without one. -/
inductive Spells (tree : LookupTree α) : List Bool → List α → Walk α → Prop where
  | short {string rest : List Bool} (ended : tree.walk string = .short rest) : Spells tree string [] (.short rest)
  | missing {string rest : List Bool} {index : Nat} (ended : tree.walk string = .missing index rest) :
      Spells tree string [] (.missing index rest)
  | symbol {string rest : List Bool} {value : α} {values : List α} {last : Walk α}
      (read : tree.walk string = .symbol value rest) (following : Spells tree rest values last) :
      Spells tree string (value :: values) last

theorem Spells.ended {tree : LookupTree α} {string : List Bool} {values : List α} {last : Walk α}
    (reads : Spells tree string values last) (stopped : ∀ value rest, tree.walk string ≠ .symbol value rest) :
    values = [] ∧ last = tree.walk string := by
  cases reads with
  | short ended => exact ⟨rfl, ended.symm⟩
  | missing ended => exact ⟨rfl, ended.symm⟩
  | symbol read _ => exact absurd read (stopped _ _)

theorem Spells.of_codes {tree : LookupTree α} {code : α → List Bool}
    (coded : ∀ value, tree.walk (code value) = .symbol value []) (values : List α) {tail : List Bool} {last : Walk α}
    (ended : Spells tree tail [] last) : Spells tree (values.flatMap code ++ tail) values last := by
  induction values with
  | nil => exact ended
  | cons value values ih =>
    have read := tree.walk_append (values.flatMap code ++ tail) (coded value)
    rw [List.nil_append, ← List.append_assoc] at read
    exact .symbol read ih

/-- Where every symbol has one code, what was read is those codes in a row. -/
theorem Spells.codes {tree : LookupTree α} {code : α → List Bool}
    (unique : ∀ string value, (string, value) ∈ tree.codes → string = code value)
    {string : List Bool} {values : List α} {last : Walk α} (reads : Spells tree string values last) :
    ∃ tail, string = values.flatMap code ++ tail ∧ tree.walk tail = last := by
  induction reads with
  | short ended => exact ⟨_, rfl, ended⟩
  | missing ended => exact ⟨_, rfl, ended⟩
  | symbol read _ ih =>
    obtain ⟨tail, same, ended⟩ := ih
    obtain ⟨found, listed, split⟩ := tree.mem_codes_of_walk read
    rw [unique _ _ listed, same] at split
    exact ⟨tail, by rw [split, List.flatMap_cons, List.append_assoc], ended⟩

end ProxyTunnels.Wire
