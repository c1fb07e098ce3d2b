import Environments.LoadId
import Environments.Proofs.Text.Digits

/-!
# Load identifiers read back

`read_write`: the written form of an identifier is read as grouped digits, and means the identifier.
It is neither 32 characters long, nor in braces, nor does it begin with the name of its kind.  Each of
the other forms is told from the rest in the same way, and none of the readers looks at the case of a
letter, `read_map_toLower`; so an identifier is read from all its spellings, `Spells.read`.
-/

namespace Environments.LoadId

open Environments.Text

/-! ### Cutting a list into pieces -/

theorem flatten_cut {lengths : List Nat} (some : lengths ≠ []) (cs : List Char) :
    (cut lengths cs).flatten = cs := by
  fun_induction cut lengths cs with
  | case1 => exact absurd rfl some
  | case2 => simp
  | case3 cs n ns more ih =>
    rw [List.flatten_cons, ih (fun none => more (by rw [none])), List.take_append_drop]

theorem map_length_cut {lengths : List Nat} {cs : List Char} (whole : cs.length = lengths.sum) :
    (cut lengths cs).map List.length = lengths := by
  fun_induction cut lengths cs with
  | case1 => rfl
  | case2 => simpa using whole
  | case3 cs n ns more ih =>
    rw [List.sum_cons] at whole
    rw [List.map_cons, ih (by rw [List.length_drop]; omega), List.length_take]
    congr 1
    omega

/-! ### The written form -/

variable (id : LoadId)

def digits : List Char := writePadded 16 32 id.bits.toNat

theorem length_digits : id.digits.length = 32 := length_writePadded 16 32 _

theorem readDigits_digits : readDigits 16 id.digits = some id.bits.toNat :=
  readDigits_writePadded (by decide) (by decide) (by decide) id.bits.isLt

theorem isSome_of_mem_digits {c : Char} (member : c ∈ id.digits) : (digit? 16 c).isSome :=
  (digit?_of_readDigits id.readDigits_digits).2 c member

theorem ofDigits?_digits : ofDigits? id.digits = some id := by
  rw [ofDigits?, if_pos id.length_digits, readDigits_digits]
  simp

theorem ofGroups?_writeChars : ofGroups? id.writeChars = some id := by
  have pieces : (cut groupLengths id.digits).flatten = id.digits :=
    flatten_cut (List.cons_ne_nil 8 _) id.digits
  have groups : id.writeChars.splitOn '-' = cut groupLengths id.digits := by
    refine List.splitOn_intercalate '-' (fun group member hyphen => ?_) (by simp [cut, groupLengths])
    have digit := id.isSome_of_mem_digits (pieces ▸ List.mem_flatten_of_mem member hyphen)
    exact ne_of_digit? digit (by decide) rfl
  rw [ofGroups?, groups, if_pos (map_length_cut id.length_digits), pieces, ofDigits?_digits]

theorem exists_writeChars :
    ∃ rest, id.writeChars = id.digits.take 8 ++ '-' :: rest ∧ rest.length = 27 := by
  refine ⟨['-'].intercalate (cut [4, 4, 4, 12] (id.digits.drop 8)), ?_, ?_⟩
  · simp [writeChars, digits, groupLengths, cut, List.intercalate, List.intersperse]
  · simp [cut, List.intercalate, List.intersperse, length_digits]

theorem length_writeChars : id.writeChars.length = 36 := by
  obtain ⟨rest, front, length⟩ := id.exists_writeChars
  rw [front, List.length_append, List.length_cons, length, List.length_take, length_digits]
  rfl

theorem insideBraces?_writeChars : insideBraces? id.writeChars = none := by
  obtain ⟨rest, front, _⟩ := id.exists_writeChars
  cases first : id.digits with
  | nil =>
    have length := id.length_digits
    rw [first] at length
    cases length
  | cons c cs =>
    have brace : c ≠ '{' :=
      ne_of_digit? (id.isSome_of_mem_digits (first ▸ List.mem_cons_self)) (by decide)
    rw [front, first, List.take_succ_cons, List.cons_append, insideBraces?]
    simp [brace]

/-- What stands before the first colon of the name of the kind is as long as the first group. -/
theorem afterUrn?_writeChars : afterUrn? id.writeChars = none := by
  obtain ⟨rest, front, _⟩ := id.exists_writeChars
  have start : id.writeChars.take 9 = id.digits.take 8 ++ ['-'] := by
    have group : (id.digits.take 8).length = 8 := by
      rw [List.length_take, length_digits]
      rfl
    rw [front, List.take_append, List.take_of_length_le (by omega), group]
    rfl
  unfold afterUrn?
  refine if_neg fun same => ?_
  rw [show "urn:uuid:".toList.length = 9 from rfl, start] at same
  have last := congrArg List.getLast? same
  rw [List.map_append, List.map_singleton, List.getLast?_concat] at last
  revert last
  decide

theorem read_write : read id.write = some id := by
  have long : id.writeChars.length ≠ 32 := by
    rw [length_writeChars]
    decide
  rw [read, write, String.toList_ofList, if_neg long, insideBraces?_writeChars, afterUrn?_writeChars]
  exact id.ofGroups?_writeChars

/-! ### Letter case -/

theorem ofDigits?_map_toLower (cs : List Char) : ofDigits? (cs.map Char.toLower) = ofDigits? cs := by
  rw [ofDigits?, ofDigits?, List.length_map, readDigits_map_toLower]

theorem splitOn_map_toLower (cs : List Char) :
    (cs.map Char.toLower).splitOn '-' = (cs.splitOn '-').map (List.map Char.toLower) := by
  induction cs with
  | nil => rfl
  | cons c cs ih =>
    have hyphen : (c.toLower == '-') = (c == '-') :=
      beq_eq_beq.mpr (toLower_eq_iff (Or.inl (by decide)))
    rw [List.map_cons, List.splitOn_cons_eq_if_modifyHead, List.splitOn_cons_eq_if_modifyHead, hyphen,
      ih]
    split
    · rfl
    · cases cs.splitOn '-' <;> rfl

theorem ofGroups?_map_toLower (cs : List Char) : ofGroups? (cs.map Char.toLower) = ofGroups? cs := by
  have lengths (groups : List (List Char)) :
      (groups.map (List.map Char.toLower)).map List.length = groups.map List.length := by
    simp
  rw [ofGroups?, ofGroups?, splitOn_map_toLower, lengths, ← List.map_flatten, ofDigits?_map_toLower]

theorem insideBraces?_cons (c : Char) (rest : List Char) : insideBraces? (c :: rest) =
    if c = '{' ∧ rest.getLast? = some '}' then some rest.dropLast else none := by
  unfold insideBraces?
  split
  · rename_i same
    cases same
    simp
  · rename_i other
    have open_brace : c ≠ '{' := fun same => other rest (by rw [same])
    simp [open_brace]

theorem insideBraces?_map_toLower (cs : List Char) :
    insideBraces? (cs.map Char.toLower) = (insideBraces? cs).map (List.map Char.toLower) := by
  cases cs with
  | nil => rfl
  | cons c rest =>
    have opens : c.toLower = '{' ↔ c = '{' := toLower_eq_iff (Or.inr (by decide))
    have closes : (rest.map Char.toLower).getLast? = some '}' ↔ rest.getLast? = some '}' := by
      rw [List.getLast?_map, Option.map_eq_some_iff]
      simp [toLower_eq_iff (show '}'.toNat < 65 ∨ 123 ≤ '}'.toNat by decide)]
    rw [List.map_cons, insideBraces?_cons, insideBraces?_cons]
    simp only [opens, closes]
    split <;> simp

theorem afterUrn?_map_toLower (cs : List Char) :
    afterUrn? (cs.map Char.toLower) = (afterUrn? cs).map (List.map Char.toLower) := by
  have twice : (cs.map Char.toLower).map Char.toLower = cs.map Char.toLower := by
    rw [List.map_map]
    exact List.map_congr_left fun c _ => toLower_toLower c
  simp only [afterUrn?, List.map_take, twice]
  split <;> simp

/-- **Whether the letters of a text are small or capital does not matter.** -/
theorem read_map_toLower (s : String) :
    read (String.ofList (s.toList.map Char.toLower)) = read s := by
  simp only [read, String.toList_ofList, List.length_map, ofDigits?_map_toLower,
    insideBraces?_map_toLower, afterUrn?_map_toLower]
  cases insideBraces? s.toList <;> cases afterUrn? s.toList <;> simp [ofGroups?_map_toLower]

/-! ### Other spellings -/

/-- What a text says that names an identifier, in any of the four forms and in letters of any case. -/
inductive Spells (s : String) : Prop
  | simple (same : s.toList.map Char.toLower = id.digits)
  | grouped (same : s.toList.map Char.toLower = id.writeChars)
  | braced (same : s.toList.map Char.toLower = '{' :: id.writeChars ++ ['}'])
  | urn (same : s.toList.map Char.toLower = "urn:uuid:".toList ++ id.writeChars)

theorem Spells.read {id : LoadId} {s : String} (spells : id.Spells s) : LoadId.read s = some id := by
  rw [← read_map_toLower]
  cases spells with
  | simple same =>
    rw [same, LoadId.read, String.toList_ofList, if_pos id.length_digits]
    exact id.ofDigits?_digits
  | grouped same =>
    rw [same]
    exact id.read_write
  | braced same =>
    have inside : insideBraces? ('{' :: id.writeChars ++ ['}']) = some id.writeChars := by
      rw [List.cons_append, insideBraces?_cons]
      simp
    have long : ('{' :: id.writeChars ++ ['}']).length ≠ 32 := by
      simp [length_writeChars]
    rw [same, LoadId.read, String.toList_ofList, if_neg long, inside]
    exact id.ofGroups?_writeChars
  | urn same =>
    have noBrace : insideBraces? ("urn:uuid:".toList ++ id.writeChars) = none := by
      rw [show "urn:uuid:".toList = 'u' :: "rn:uuid:".toList from rfl, List.cons_append,
        insideBraces?_cons, if_neg (fun brace => absurd brace.1 (by decide))]
    have after : afterUrn? ("urn:uuid:".toList ++ id.writeChars) = some id.writeChars := by
      have small : "urn:uuid:".toList.map Char.toLower = "urn:uuid:".toList := by decide
      simp only [afterUrn?, List.take_left, List.drop_left, small, if_true]
    have long : ("urn:uuid:".toList ++ id.writeChars).length ≠ 32 := by
      rw [List.length_append, length_writeChars]
      decide
    rw [same, LoadId.read, String.toList_ofList, if_neg long, noBrace, after]
    exact id.ofGroups?_writeChars

theorem spells_write : id.Spells id.write := by
  refine .grouped ?_
  have hyphen : '-'.toLower = '-' := by decide
  rw [write, String.toList_ofList]
  simp only [writeChars, groupLengths, cut, List.intercalate, List.intersperse,
    List.flatten_cons, List.flatten_nil, List.map_append, List.map_take, List.map_drop, List.map_cons,
    List.map_nil, map_toLower_writePadded, hyphen]

end Environments.LoadId
