import Mathlib
import Subgraph.Json.Printer
import Subgraph.Json.Reader
import Subgraph.Proofs.Json.Number
import Subgraph.Proofs.OrderedMap

/-!
# JSON texts and back

A value is read back from its text without blanks, if its integers have 64 bits,
none of its objects has a member twice and it is not nested too deep.

* `Json.IsPlain` says which values these are.
* `Json.IsPlain.exists_writes` is what is read in the text of such a value, with
  anything behind it that does not go on with a number.
* `Json.value?_eq_ite` is what comes of another limit to the nesting.
-/

namespace Subgraph

namespace Json

/-- A value with integers of 64 bits and without repeated members, with so many containers inside
one another at most. -/
inductive IsPlain : Nat → Json → Prop where
  | null {levels : Nat} : IsPlain levels .null
  | bool {levels : Nat} (value : Bool) : IsPlain levels (.bool value)
  | int {levels : Nat} {value : Int} (bounded : IsInt64 value) : IsPlain levels (.int value)
  | double {levels : Nat} (value : Double) : IsPlain levels (.double value)
  | str {levels : Nat} (value : String) : IsPlain levels (.str value)
  | arr {levels : Nat} {items : List Json} (each : ∀ item ∈ items, IsPlain levels item) :
      IsPlain (levels + 1) (.arr items)
  | obj {levels : Nat} {members : List (String × Json)} (distinct : (members.map Prod.fst).Nodup)
      (each : ∀ member ∈ members, IsPlain levels member.2) : IsPlain (levels + 1) (.obj members)

theorem depthAll_le {items : List Json} {levels : Nat} :
    depthAll items ≤ levels ↔ ∀ item ∈ items, item.depth ≤ levels := by
  induction items with
  | nil => simp [depthAll]
  | cons item items ih => simp [depthAll, ih]

theorem depthIn_le {members : List (String × Json)} {levels : Nat} :
    depthIn members ≤ levels ↔ ∀ member ∈ members, member.2.depth ≤ levels := by
  induction members with
  | nil => simp [depthIn]
  | cons member members ih => simp [depthIn, ih]

theorem IsPlain.depth_le {levels : Nat} {value : Json} (plain : IsPlain levels value) :
    value.depth ≤ levels := by
  induction plain with
  | null | bool | int | double | str => exact Nat.zero_le _
  | arr each ih => exact Nat.succ_le_succ (depthAll_le.2 ih)
  | obj distinct each ih => exact Nat.succ_le_succ (depthIn_le.2 ih)

/-- No more containers need to be allowed than there are. -/
theorem IsPlain.of_depth_le {levels more : Nat} {value : Json} (plain : IsPlain levels value)
    (deep : value.depth ≤ more) : IsPlain more value := by
  induction plain generalizing more with
  | null => exact .null
  | bool value => exact .bool value
  | int bounded => exact .int bounded
  | double value => exact .double value
  | str value => exact .str value
  | arr each ih =>
      obtain ⟨inner, rfl⟩ := Nat.exists_eq_add_of_le' (Nat.le_of_add_left_le deep)
      have within := depthAll_le.1 (Nat.le_of_succ_le_succ deep)
      exact .arr fun item member => ih item member (within item member)
  | obj distinct each ih =>
      obtain ⟨inner, rfl⟩ := Nat.exists_eq_add_of_le' (Nat.le_of_add_left_le deep)
      have within := depthIn_le.1 (Nat.le_of_succ_le_succ deep)
      exact .obj distinct fun member inside => ih member inside (within member inside)

/-- More containers may stand inside one another. -/
theorem IsPlain.mono {levels more : Nat} {value : Json} (plain : IsPlain levels value)
    (le : levels ≤ more) : IsPlain more value := plain.of_depth_le (plain.depth_le.trans le)

/-! ## Strings -/

/-- A character that stands for itself in a string. -/
def IsOrdinary (c : Char) : Prop := c ≠ '"' ∧ c ≠ '\\' ∧ 0x20 ≤ c.toNat

instance (c : Char) : Decidable (IsOrdinary c) := inferInstanceAs (Decidable (_ ∧ _))

theorem readString_of_isOrdinary {c : Char} (ordinary : IsOrdinary c) (rest : List Char) :
    readString (c :: rest) = (readString rest).map fun read => (c :: read.1, read.2) := by
  obtain ⟨noQuote, noBackslash, noControl⟩ := ordinary
  cases same : readString rest <;> simp [readString, noBackslash, noControl, same]

theorem unescaped?_of_isOrdinary {c : Char} (ordinary : IsOrdinary c) (rest : List Char) :
    unescaped? (c :: rest) = (unescaped? rest).map (c :: ·) := by
  rw [unescaped?]
  exact fun same => absurd same ordinary.2.1

/-- The digits of a control stand for themselves, and for its code. -/
theorem fourHexDigits_control : ∀ n < 0x20,
    (fourHexDigits n).length = 4 ∧ ((fourHexDigits n).all fun c => IsOrdinary c) = true ∧
      Text.hexValue? (fourHexDigits n) = some n := by
  decide

/-- The escape of a control, and four digits that spell its code. -/
theorem exists_fourHexDigits {c : Char} (control : c.toNat < 0x20) :
    ∃ w x y z, fourHexDigits c.toNat = [w, x, y, z] ∧
      (∀ digit ∈ [w, x, y, z], IsOrdinary digit) ∧
      ∀ rest, Text.readFourHex (w :: x :: y :: z :: rest) = some (c.toNat, rest) := by
  obtain ⟨four, ordinary, code⟩ := fourHexDigits_control c.toNat control
  obtain ⟨w, x, y, z, same⟩ := List.length_eq_four.1 four
  rw [same] at ordinary code
  refine ⟨w, x, y, z, same, by simpa using ordinary, fun rest => ?_⟩
  rw [Text.readFourHex, code]
  rfl

/-- One character of a string is read as it is written. -/
theorem readString_escapedChar (c : Char) (rest : List Char) :
    readString (escapedChar c ++ rest) =
      (readString rest).map fun read => (escapedChar c ++ read.1, read.2) := by
  unfold escapedChar
  split
  case h_8 noQuote noBackslash _ _ _ _ _ =>
      split
      next control =>
          obtain ⟨w, x, y, z, same, ordinary, code⟩ := exists_fourHexDigits control
          simp only [List.mem_cons, List.not_mem_nil, or_false, forall_eq_or_imp, forall_eq] at ordinary
          obtain ⟨isW, isX, isY, isZ⟩ := ordinary
          rw [same]
          cases read : readString rest <;>
            simp [readString, code, readString_of_isOrdinary isW, readString_of_isOrdinary isX,
              readString_of_isOrdinary isY, readString_of_isOrdinary isZ, read]
      next noControl =>
          exact readString_of_isOrdinary ⟨noQuote, noBackslash, Nat.le_of_not_lt noControl⟩ rest
  all_goals
    cases read : readString rest <;> simp [readString, Text.letterEscape?, read]

/-- One character of a string stands for itself. -/
theorem unescaped?_escapedChar (c : Char) (rest : List Char) :
    unescaped? (escapedChar c ++ rest) = (unescaped? rest).map (c :: ·) := by
  unfold escapedChar
  split
  case h_8 noQuote noBackslash _ _ _ _ _ =>
      split
      next control =>
          obtain ⟨w, x, y, z, same, _, code⟩ := exists_fourHexDigits control
          have shorter : rest.length ≤ ('u' :: w :: x :: y :: z :: rest).length := by
            simp only [List.length_cons]
            omega
          rw [same, List.cons_append, List.cons_append, unescaped?, readEscape]
          simp only [List.cons_append, List.nil_append, Text.readUnits, code, Option.bind_eq_bind,
            Option.bind_some, Text.charOfCode?_toNat]
          rw [if_pos shorter]
          cases unescaped? rest <;> rfl
      next noControl =>
          exact unescaped?_of_isOrdinary ⟨noQuote, noBackslash, Nat.le_of_not_lt noControl⟩ rest
  all_goals
    cases read : unescaped? rest <;> simp [unescaped?, readEscape, Text.letterEscape?, read]

theorem readString_flatMap_escapedChar (cs rest : List Char) :
    readString (cs.flatMap escapedChar ++ '"' :: rest) = some (cs.flatMap escapedChar, rest) := by
  induction cs with
  | nil => rfl
  | cons c cs ih =>
      rw [List.flatMap_cons, List.append_assoc, readString_escapedChar, ih]
      rfl

theorem textOf?_flatMap_escapedChar (s : String) :
    textOf? (s.toList.flatMap escapedChar) = some s := by
  have whole (cs : List Char) : unescaped? (cs.flatMap escapedChar) = some cs := by
    induction cs with
    | nil => rw [List.flatMap_nil, unescaped?]
    | cons c cs ih =>
        rw [List.flatMap_cons, unescaped?_escapedChar, ih]
        rfl
  rw [textOf?, whole]
  simp

/-! ## Items and members step by step -/

theorem skipSpace_cons {c : Char} (noSpace : isSpace c = false) (rest : List Char) :
    skipSpace (c :: rest) = c :: rest := by
  rw [skipSpace, List.dropWhile_cons_of_neg (by rw [noSpace]; exact Bool.false_ne_true)]

theorem readValue_scalar {c : Char} (noSpace : isSpace c = false) (noBracket : c ≠ '[')
    (noBrace : c ≠ '\x7b') (rest : List Char) :
    readValue (c :: rest) = readScalar (c :: rest) := by
  rw [readValue, skipSpace_cons noSpace]
  split
  next same => exact absurd (List.cons.inj same).1 noBracket
  next same => exact absurd (List.cons.inj same).1 noBrace
  next => rfl

theorem skipSpace_comma (rest : List Char) : skipSpace (',' :: rest) = ',' :: rest := rfl

theorem readItems_last {cs rest : List Char} {item : Written}
    (read : readValue cs = some (item, ']' :: rest)) : readItems cs = some ([item], rest) := by
  rw [readItems, read]
  rfl

theorem readItems_comma {cs rest : List Char} {item : Written}
    (read : readValue cs = some (item, ',' :: rest)) (shorter : rest.length < cs.length) :
    readItems cs = (readItems rest).map fun read => (item :: read.1, read.2) := by
  rw [readItems, read]
  cases same : readItems rest <;> simp [skipSpace_comma, shorter, same]

theorem readMembers_last {cs after rest : List Char} {name : List Char} {member : Written}
    (named : readMemberName cs = some (name, after)) (shorter : after.length < cs.length)
    (read : readValue after = some (member, '\x7d' :: rest)) :
    readMembers cs = some ([(name, member)], rest) := by
  rw [readMembers, named, Option.bind_eq_bind, Option.bind_some]
  dsimp only
  rw [if_pos shorter, read]
  rfl

theorem readMembers_comma {cs after rest : List Char} {name : List Char} {member : Written}
    (named : readMemberName cs = some (name, after)) (shorter : after.length < cs.length)
    (read : readValue after = some (member, ',' :: rest)) (shorter' : rest.length < cs.length) :
    readMembers cs = (readMembers rest).map fun read => ((name, member) :: read.1, read.2) := by
  rw [readMembers, named]
  cases same : readMembers rest <;> simp [shorter, read, skipSpace_comma, shorter', same]

theorem readMemberName_stringText (name : String) (rest : List Char) :
    readMemberName ((stringText name).toList ++ ':' :: rest) =
      some (name.toList.flatMap escapedChar, rest) := by
  have quoted : (stringText name).toList ++ ':' :: rest =
      '"' :: (name.toList.flatMap escapedChar ++ '"' :: ':' :: rest) := by
    simp [stringText]
  rw [quoted, readMemberName, skipSpace_cons rfl]
  simp [readString_flatMap_escapedChar, skipSpace_cons (c := ':') rfl]

/-! ## Values -/

/-- A text begins with something that is no blank and closes nothing. -/
def Begins (text : List Char) : Prop :=
  ∃ c others, text = c :: others ∧ isSpace c = false ∧ c ≠ ']' ∧ c ≠ '\x7d'

theorem Begins.append {text : List Char} (begins : Begins text) (behind : List Char) :
    Begins (text ++ behind) := by
  obtain ⟨c, others, rfl, open_⟩ := begins
  exact ⟨c, others ++ behind, rfl, open_⟩

theorem Begins.intercalate {text : String} (begins : Begins text.toList) (texts : List String) :
    Begins (",".intercalate (text :: texts)).toList := by
  cases texts with
  | nil => rwa [String.intercalate_singleton]
  | cons next texts =>
      rw [String.intercalate_cons_cons, String.toList_append, String.toList_append, List.append_assoc]
      exact begins.append _

theorem begins_stringText (name : String) : Begins (stringText name).toList :=
  ⟨'"', _, by simp [stringText]; rfl, rfl, by decide, by decide⟩

theorem readValue_openBracket {inner : List Char} (begins : Begins inner) :
    readValue ('[' :: inner) = (readItems inner).map fun read => (.arr read.1, read.2) := by
  obtain ⟨c, others, rfl, noSpace, noBracket, _⟩ := begins
  rw [readValue, skipSpace_cons rfl]
  simp [skipSpace_cons noSpace, noBracket]

theorem readValue_openBrace {inner : List Char} (begins : Begins inner) :
    readValue ('\x7b' :: inner) = (readMembers inner).map fun read => (.obj read.1, read.2) := by
  obtain ⟨c, others, rfl, noSpace, _, noBrace⟩ := begins
  rw [readValue, skipSpace_cons rfl]
  simp [skipSpace_cons noSpace, noBrace]

/-- A text in which a value is read, whatever comes behind it and does not go on with a number. -/
structure Writes (levels : Nat) (text : List Char) (written : Written) (value : Json) : Prop where
  begins : Begins text
  read : ∀ rest, EndsNumber rest → readValue (text ++ rest) = some (written, rest)
  known : written.known? .any = some written
  value : written.value? levels = some value

/-! ### Arrays -/

/-- Texts in which values are read, one for each. -/
inductive WritesAll (levels : Nat) : List String → List Written → List Json → Prop where
  | nil : WritesAll levels [] [] []
  | cons {text : String} {texts : List String} {item : Written} {items : List Written}
      {value : Json} {values : List Json} (one : Writes levels text.toList item value)
      (others : WritesAll levels texts items values) :
      WritesAll levels (text :: texts) (item :: items) (value :: values)

namespace WritesAll

variable {levels : Nat} {texts : List String} {items : List Written} {values : List Json}

/-- The items of an array are read one after the other, by induction on their texts. -/
theorem readItems_eq {text : String} (all : WritesAll levels (text :: texts) items values)
    (rest : List Char) :
    readItems ((",".intercalate (text :: texts)).toList ++ ']' :: rest) = some (items, rest) := by
  induction texts generalizing text items values with
  | nil =>
      cases all with
      | cons one others =>
          cases others
          rw [String.intercalate_singleton]
          exact readItems_last (one.read _ (endsNumber_cons.2 (by decide)))
  | cons next texts ih =>
      cases all with
      | cons one others =>
          have split : (",".intercalate (text :: next :: texts)).toList ++ ']' :: rest =
              text.toList ++ ',' :: ((",".intercalate (next :: texts)).toList ++ ']' :: rest) := by
            simp [String.intercalate_cons_cons]
          rw [split, readItems_comma (one.read _ (endsNumber_cons.2 (by decide))), ih others]
          · rfl
          · simp only [List.length_append, List.length_cons]
            omega

theorem exists_of_each (each : ∀ value ∈ values, ∃ written,
    Writes levels value.compress.toList written value) :
    ∃ items, WritesAll levels (compressAll values) items values := by
  induction values with
  | nil => exact ⟨[], .nil⟩
  | cons value values ih =>
      obtain ⟨item, one⟩ := each value List.mem_cons_self
      obtain ⟨items, others⟩ := ih fun other among => each other (List.mem_cons_of_mem _ among)
      exact ⟨item :: items, .cons one others⟩

theorem knownItems?_eq (all : WritesAll levels texts items values) :
    Written.knownItems? .any [] items = some items := by
  induction all with
  | nil => rfl
  | cons one others ih =>
      rw [Written.knownItems?]
      change (do
        let known ← Written.known? .any _
        let others ← Written.knownItems? .any [] _
        return known :: others) = _
      rw [one.known, ih]
      rfl

theorem values?_eq (all : WritesAll levels texts items values) :
    Written.values? levels items = some values := by
  induction all with
  | nil => rfl
  | cons one others ih =>
      rw [Written.values?, one.value, ih]
      rfl

/-- An array is read as its items are. -/
theorem writes_arr (all : WritesAll levels texts items values) :
    Writes (levels + 1) ("[" ++ ",".intercalate texts ++ "]").toList (.arr items) (.arr values) where
  begins := ⟨'[', _, by simp; rfl, rfl, by decide, by decide⟩
  read rest _ := by
    cases all with
    | nil =>
        rw [String.intercalate_nil, readValue]
        rfl
    | @cons text texts _ _ _ _ one others =>
        have split : ("[" ++ ",".intercalate (text :: texts) ++ "]").toList ++ rest =
            '[' :: ((",".intercalate (text :: texts)).toList ++ ']' :: rest) := by
          simp
        rw [split, readValue_openBracket ((one.begins.intercalate texts).append _),
          (cons one others).readItems_eq]
        rfl
  known := by
    rw [Written.known?]
    exact congrArg (Option.map _) all.knownItems?_eq
  value := by
    rw [Written.value?, all.values?_eq]
    rfl

end WritesAll

/-! ### Objects -/

/-- Texts in which members are read, one for each. -/
inductive WritesIn (levels : Nat) :
    List String → List (List Char × Written) → List (String × Json) → Prop where
  | nil : WritesIn levels [] [] []
  | cons {text : String} {texts : List String} {item : Written}
      {items : List (List Char × Written)} {value : Json} {values : List (String × Json)}
      (name : String) (one : Writes levels text.toList item value)
      (others : WritesIn levels texts items values) :
      WritesIn levels ((stringText name ++ ":" ++ text) :: texts)
        ((name.toList.flatMap escapedChar, item) :: items) ((name, value) :: values)

namespace WritesIn

variable {levels : Nat} {texts : List String} {items : List (List Char × Written)}
  {values : List (String × Json)}

/-- The members of an object are read one after the other, by induction on their texts. -/
theorem readMembers_eq {text : String} (all : WritesIn levels (text :: texts) items values)
    (rest : List Char) :
    readMembers ((",".intercalate (text :: texts)).toList ++ '\x7d' :: rest) =
      some (items, rest) := by
  induction texts generalizing text items values with
  | nil =>
      cases all with
      | @cons text _ _ _ _ _ name one others =>
          cases others
          have split : (",".intercalate [stringText name ++ ":" ++ text]).toList ++ '\x7d' :: rest =
              (stringText name).toList ++ ':' :: (text.toList ++ '\x7d' :: rest) := by
            simp
          rw [split]
          refine readMembers_last (readMemberName_stringText name _) ?_ (one.read _ (endsNumber_cons.2 (by decide)))
          simp only [List.length_append, List.length_cons]
          omega
  | cons next texts ih =>
      cases all with
      | @cons text _ _ _ _ _ name one others =>
          have split :
              (",".intercalate ((stringText name ++ ":" ++ text) :: next :: texts)).toList ++
                '\x7d' :: rest =
              (stringText name).toList ++ ':' :: (text.toList ++
                ',' :: ((",".intercalate (next :: texts)).toList ++ '\x7d' :: rest)) := by
            simp [String.intercalate_cons_cons]
          rw [split, readMembers_comma (readMemberName_stringText name _) ?_ (one.read _ (endsNumber_cons.2 (by decide))), ih others]
          · rfl
          · simp only [List.length_append, List.length_cons]
            omega
          · simp only [List.length_append, List.length_cons]
            omega

theorem exists_of_each (each : ∀ member ∈ values, ∃ written,
    Writes levels member.2.compress.toList written member.2) :
    ∃ items, WritesIn levels (compressIn values) items values := by
  induction values with
  | nil => exact ⟨[], .nil⟩
  | cons member values ih =>
      obtain ⟨item, one⟩ := each member List.mem_cons_self
      obtain ⟨items, others⟩ := ih fun other among => each other (List.mem_cons_of_mem _ among)
      exact ⟨_ :: items, .cons member.1 one others⟩

/-- All members are kept of which anything may be the value. -/
theorem knownMembers?_eq (all : WritesIn levels texts items values) {shape : Shape}
    (known : ∀ member ∈ values, shape.member? member.1 = some .any) :
    Written.knownMembers? shape items = some items := by
  induction all with
  | nil => rfl
  | cons name one others ih =>
      rw [Written.knownMembers?, textOf?_flatMap_escapedChar,
        ih fun member inside => known member (List.mem_cons_of_mem _ inside)]
      simp only [known _ List.mem_cons_self, Option.bind_eq_bind, Option.bind_some, one.known]
      rfl

theorem memberValues?_eq (all : WritesIn levels texts items values) :
    Written.memberValues? levels items = some values := by
  induction all with
  | nil => rfl
  | cons name one others ih =>
      rw [Written.memberValues?, textOf?_flatMap_escapedChar, one.value, ih]
      rfl

/-- An object is read as its members are. -/
theorem writes_obj (all : WritesIn levels texts items values) :
    Writes (levels + 1) ("\x7b" ++ ",".intercalate texts ++ "\x7d").toList (.obj items)
      (.obj values) where
  begins := ⟨'\x7b', _, by simp; rfl, rfl, by decide, by decide⟩
  read rest _ := by
    cases all with
    | nil =>
        rw [String.intercalate_nil, readValue]
        rfl
    | @cons text texts _ _ _ _ name one others =>
        have split : ("\x7b" ++ ",".intercalate ((stringText name ++ ":" ++ text) :: texts) ++
              "\x7d").toList ++ rest =
            '\x7b' :: ((",".intercalate ((stringText name ++ ":" ++ text) :: texts)).toList ++
              '\x7d' :: rest) := by
          simp
        have begins : Begins (stringText name ++ ":" ++ text).toList := by
          rw [String.toList_append, String.toList_append, List.append_assoc]
          exact (begins_stringText name).append _
        rw [split, readValue_openBrace ((begins.intercalate texts).append _),
          (cons name one others).readMembers_eq]
        rfl
  known := by
    rw [Written.known?]
    exact congrArg (Option.map _) (all.knownMembers?_eq fun _ _ => rfl)
  value := by
    rw [Written.value?, all.memberValues?_eq]
    rfl

end WritesIn

/-! ### All values -/

theorem writes_str (levels : Nat) (s : String) :
    Writes levels (stringText s).toList (.str (s.toList.flatMap escapedChar)) (.str s) where
  begins := begins_stringText s
  read rest _ := by
    have split : (stringText s).toList ++ rest =
        '"' :: (s.toList.flatMap escapedChar ++ '"' :: rest) := by
      simp [stringText]
    rw [split, readValue_scalar rfl (by decide) (by decide), readScalar,
      readString_flatMap_escapedChar]
    rfl
  known := rfl
  value := by
    rw [Written.value?, textOf?_flatMap_escapedChar]
    rfl

theorem writes_null (levels : Nat) : Writes levels "null".toList .null .null where
  begins := ⟨'n', _, rfl, rfl, by decide, by decide⟩
  read _ _ := readValue_scalar rfl (by decide) (by decide) _
  known := rfl
  value := rfl

theorem writes_bool (levels : Nat) (value : Bool) :
    Writes levels (compress (.bool value)).toList (.bool value) (.bool value) where
  begins := by
    cases value
    · exact ⟨'f', _, rfl, rfl, by decide, by decide⟩
    · exact ⟨'t', _, rfl, rfl, by decide, by decide⟩
  read rest _ := by
    cases value <;> exact readValue_scalar rfl (by decide) (by decide) _
  known := rfl
  value := rfl

section

variable {c : Char} (first : c = '-' ∨ c.isDigit = true)

include first

/-- Nothing but a number begins with a minus or a digit. -/
theorem ne_of_minus_or_digit {d : Char} (other : ¬ (d = '-' ∨ d.isDigit = true)) : c ≠ d := by
  rintro rfl
  exact other first

theorem isSpace_of_minus_or_digit : isSpace c = false := by
  have noSpace {d : Char} (other : ¬ (d = '-' ∨ d.isDigit = true)) := ne_of_minus_or_digit first other
  simp [isSpace, noSpace (d := ' ') (by decide), noSpace (d := '\t') (by decide),
    noSpace (d := '\n') (by decide), noSpace (d := '\r') (by decide)]

theorem readValue_number (rest : List Char) :
    readValue (c :: rest) = (readNumber (c :: rest)).map fun read => (.number read.1, read.2) := by
  rw [readValue_scalar (isSpace_of_minus_or_digit first)
    (ne_of_minus_or_digit first (by decide)) (ne_of_minus_or_digit first (by decide))]
  unfold readScalar
  split
  case h_5 => rfl
  all_goals
    next same =>
      exact absurd (List.cons.inj same).1 (ne_of_minus_or_digit first (by decide))

end

theorem writes_number (levels : Nat) {number : NumberText} (spelled : number.IsSpelled)
    {value : Json} (denoted : number.value? = some value) :
    Writes levels number.spelling (.number number) value where
  begins := by
    obtain ⟨c, others, same, first⟩ := spelled.exists_eq_cons
    exact ⟨c, others, same, isSpace_of_minus_or_digit first,
      ne_of_minus_or_digit first (by decide), ne_of_minus_or_digit first (by decide)⟩
  read rest ends := by
    have read := readNumber_spelling spelled ends
    obtain ⟨c, others, same, first⟩ := spelled.exists_eq_cons
    rw [same, List.cons_append] at read ⊢
    rw [readValue_number first, read]
    rfl
  known := rfl
  value := denoted

/-- A plain value is read in its text, by induction on the value. -/
theorem IsPlain.exists_writes {levels : Nat} {value : Json} (plain : IsPlain levels value) :
    ∃ written, Writes levels value.compress.toList written value := by
  induction plain with
  | null => exact ⟨_, writes_null _⟩
  | bool value => exact ⟨_, writes_bool _ value⟩
  | int bounded =>
      obtain ⟨number, spelled, text, value⟩ := exists_spelling_int bounded
      exact ⟨_, text ▸ writes_number _ spelled value⟩
  | double value =>
      obtain ⟨number, spelled, text, value⟩ := exists_spelling_double doubleFormat value
      exact ⟨_, text ▸ writes_number _ spelled value⟩
  | str value => exact ⟨_, writes_str _ value⟩
  | @arr levels items each ih =>
      obtain ⟨written, all⟩ := WritesAll.exists_of_each ih
      exact ⟨_, all.writes_arr⟩
  | @obj levels members distinct each ih =>
      obtain ⟨written, all⟩ := WritesIn.exists_of_each ih
      exact ⟨_, all.writes_obj⟩

theorem Writes.written?_eq {levels : Nat} {text : String} {written : Written} {value : Json}
    (writes : Writes levels text.toList written value) : written? text = some written := by
  have read := writes.read [] endsNumber_nil
  rw [List.append_nil] at read
  rw [written?, read]
  rfl

/-! ## Nesting -/

theorem NumberText.depth_of_value? {number : NumberText} {value : Json}
    (denoted : number.value? = some value) : value.depth = 0 := by
  have asDouble {read : Option Double} (same : read.map Json.double = some value) :
      value.depth = 0 := by
    obtain ⟨x, _, rfl⟩ := Option.map_eq_some_iff.1 same
    rfl
  unfold NumberText.value? at denoted
  dsimp only at denoted
  split_ifs at denoted
  · exact Option.some.inj denoted ▸ rfl
  · exact asDouble denoted
  · exact Option.some.inj denoted ▸ rfl
  · exact asDouble denoted
  · exact asDouble denoted

mutual

/-- What is read under one limit is read under any other that is not less than its depth, by
recursion on what is written. -/
theorem value?_eq_ite {limit : Nat} {value : Json} (written : Written)
    (read : written.value? limit = some value) (other : Nat) :
    written.value? other = if value.depth ≤ other then some value else none := by
  cases written with
  | null | bool =>
      cases read
      rfl
  | number number =>
      rw [NumberText.depth_of_value? read, if_pos (Nat.zero_le _)]
      exact read
  | str raw =>
      obtain ⟨text, _, rfl⟩ := Option.map_eq_some_iff.1 read
      rw [depth, if_pos (Nat.zero_le _)]
      exact read
  | arr items =>
      cases limit with
      | zero => cases read
      | succ inner =>
          obtain ⟨values, same, rfl⟩ := Option.map_eq_some_iff.1 read
          rw [depth]
          cases other with
          | zero => rfl
          | succ other =>
              rw [Written.value?, values?_eq_ite items same other]
              simp only [Nat.add_le_add_iff_right]
              split <;> rfl
  | obj members =>
      cases limit with
      | zero => cases read
      | succ inner =>
          obtain ⟨values, same, rfl⟩ := Option.map_eq_some_iff.1 read
          rw [depth]
          cases other with
          | zero => rfl
          | succ other =>
              rw [Written.value?, memberValues?_eq_ite members same other]
              simp only [Nat.add_le_add_iff_right]
              split <;> rfl

theorem values?_eq_ite {limit : Nat} {values : List Json} (items : List Written)
    (read : Written.values? limit items = some values) (other : Nat) :
    Written.values? other items = if depthAll values ≤ other then some values else none := by
  cases items with
  | nil =>
      cases read
      rfl
  | cons item items =>
      rw [Written.values?] at read
      obtain ⟨value, one, read⟩ := Option.bind_eq_some_iff.1 read
      obtain ⟨others, rest, same⟩ := Option.bind_eq_some_iff.1 read
      cases same
      rw [Written.values?, value?_eq_ite item one other, values?_eq_ite items rest other, depthAll]
      simp only [max_le_iff]
      split_ifs <;> simp_all

theorem memberValues?_eq_ite {limit : Nat} {values : List (String × Json)}
    (members : List (List Char × Written))
    (read : Written.memberValues? limit members = some values) (other : Nat) :
    Written.memberValues? other members =
      if depthIn values ≤ other then some values else none := by
  cases members with
  | nil =>
      cases read
      rfl
  | cons member members =>
      obtain ⟨raw, member⟩ := member
      rw [Written.memberValues?] at read
      obtain ⟨name, named, read⟩ := Option.bind_eq_some_iff.1 read
      obtain ⟨value, one, read⟩ := Option.bind_eq_some_iff.1 read
      obtain ⟨others, rest, same⟩ := Option.bind_eq_some_iff.1 read
      cases same
      rw [Written.memberValues?, named, value?_eq_ite member one other,
        memberValues?_eq_ite members rest other, depthIn]
      simp only [max_le_iff]
      split_ifs <;> simp_all

end

/-! ## Repeated members -/

theorem withoutRepeatsAll_eq {items : List Json}
    (each : ∀ item ∈ items, item.withoutRepeats = item) : withoutRepeatsAll items = items := by
  induction items with
  | nil => rfl
  | cons item items ih =>
      rw [withoutRepeatsAll, each item List.mem_cons_self,
        ih fun other member => each other (List.mem_cons_of_mem _ member)]

/-- Members that are not repeated are set behind those before them. -/
theorem withoutRepeatsIn_eq {done members : List (String × Json)}
    (distinct : ((done ++ members).map Prod.fst).Nodup)
    (each : ∀ member ∈ members, member.2.withoutRepeats = member.2) :
    withoutRepeatsIn done members = done ++ members := by
  induction members generalizing done with
  | nil => rw [withoutRepeatsIn, List.append_nil]
  | cons member members ih =>
      obtain ⟨name, value⟩ := member
      have fresh : name ∉ done.map Prod.fst := by
        rw [List.map_append, List.map_cons] at distinct
        exact fun inside => (List.nodup_append.1 distinct).2.2 _ inside _ List.mem_cons_self rfl
      rw [withoutRepeatsIn, each _ List.mem_cons_self, Assoc.set_of_fresh _ fresh,
        ih (by simpa using distinct) fun other inside => each other (List.mem_cons_of_mem _ inside)]
      simp

/-- A plain value has no member twice. -/
theorem IsPlain.withoutRepeats {levels : Nat} {value : Json} (plain : IsPlain levels value) :
    value.withoutRepeats = value := by
  induction plain with
  | null | bool | int | double | str => rfl
  | arr each ih => exact congrArg Json.arr (withoutRepeatsAll_eq ih)
  | obj distinct each ih =>
      exact congrArg Json.obj (@withoutRepeatsIn_eq [] _ distinct ih)

end Json

end Subgraph
