import Mathlib
import Subgraph.Proofs.Federated.OptionText
import Subgraph.Proofs.Federated.Stability
import Subgraph.Proofs.Options.Synthesis

/-!
# Directives by name

Whether a caller gives a key, or says that a type is an extension, is looked up in
the text of the directives and not among the directives that it applies.

* `Directive.applied?` are the directives that a text applies.
* `Directive.applied?_append_keyDirective` and
  `Directive.applied?_append_keyDirective_of_unended` say what a text applies with a
  key behind it: the key too, unless a comment takes it in.
* `Schema.keyedByName_iff` and `Schema.markedByName_iff` say when a key and a mark
  are as the names of the applied directives have it.
-/

namespace Subgraph

/-! ## Keys as directives -/

namespace Key

/-- Whether a character can stand in the text of a path. -/
def isPlain (c : Char) : Bool := Name.isContinue c || c = ' ' || c = '\x7b' || c = '\x7d'

theorem all_isPlain (path : List Name) : (text path).toList.all isPlain = true := by
  have name (field : Name) : field.text.toList.all isPlain = true :=
    List.all_eq_true.2 fun c member => by
      rw [isPlain, List.all_eq_true.1 field.all_isContinue c member]
      rfl
  fun_induction text path with
  | case1 => rfl
  | case2 field => exact name field
  | case3 field rest _ ih =>
      simp only [String.toList_append, List.all_append, Bool.and_eq_true]
      exact ⟨⟨⟨name field, by decide⟩, ih⟩, by decide⟩

theorem le_toNat_of_isPlain {c : Char} (plain : isPlain c = true) : 0x20 ≤ c.toNat := by
  simp only [isPlain, Bool.or_eq_true, decide_eq_true_eq] at plain
  rcases plain with ((inName | rfl) | rfl) | rfl
  · simp only [Name.isContinue, Char.isAlphanum, Bool.or_eq_true] at inName
    rcases inName with (alpha | digit) | same
    · have letter := Name.le_toNat_of_isStart (Bool.or_eq_true_iff.2 (Or.inl alpha))
      omega
    · exact Nat.le_trans (by decide) (Char.isDigit_iff_toNat.1 digit).1
    · rw [of_decide_eq_true same]
      decide
  all_goals decide

/-- A path stands between quotes as it is. -/
theorem quotedStringChar_of_isPlain {c : Char} (plain : isPlain c = true) :
    quotedStringChar c = [c] := by
  have least := le_toNat_of_isPlain plain
  unfold quotedStringChar
  split
  case h_8 => rw [if_neg (Nat.not_lt.2 least)]
  all_goals exact absurd plain (by decide)

theorem isLineEnd_of_isPlain {c : Char} (plain : isPlain c = true) : Token.isLineEnd c = false := by
  refine Bool.eq_false_iff.2 fun ends => ?_
  rw [Token.isLineEnd, Bool.or_eq_true, decide_eq_true_eq, decide_eq_true_eq] at ends
  rcases ends with rfl | rfl <;> exact absurd plain (by decide)

theorem quotedString_text (path : List Name) :
    quotedString (text path) = "\"" ++ text path ++ "\"" := by
  have same : (text path).toList.flatMap quotedStringChar = (text path).toList := by
    have all := all_isPlain path
    generalize (text path).toList = cs at all
    induction cs with
    | nil => rfl
    | cons c cs ih =>
        obtain ⟨here, behind⟩ := Bool.and_eq_true_iff.1 (List.all_cons ▸ all)
        rw [List.flatMap_cons, quotedStringChar_of_isPlain here, ih behind]
        rfl
  apply String.toList_injective
  rw [quotedString, same]
  simp

end Key

namespace Directive

theorem isValid_fields : Name.isValid "fields".toList = true := by decide

/-- The directive that gives a key. -/
def key (path : List Name) : Directive where
  name := ⟨"key", by decide⟩
  arguments := [(⟨"fields", isValid_fields⟩, .string (Key.text path))]

theorem text_key (path : List Name) : (key path).text = Options.keyDirective path := by
  apply String.toList_injective
  rw [Options.keyDirective, text, key]
  simp [Value.textIn, Value.text, Key.quotedString_text]

variable {constant : Bool} {levels : Nat} {text : String} {applied : List Directive}

/-- The directives that a text applies, if it has nothing else in it. -/
def applied? (constant : Bool) (levels : Nat) (text : String) : Option (List Directive) :=
  match (Token.ofText? text).bind (Reading.directives constant levels) with
  | some (applied, []) => some applied
  | _ => none

theorem applied?_eq_some_iff : applied? constant levels text = some applied ↔
    ∃ lexemes, Token.ofText? text = some lexemes ∧
      Reading.directives constant levels lexemes = some (applied, []) := by
  unfold applied?
  constructor
  · intro read
    split at read
    next found same =>
        cases read
        exact Option.bind_eq_some_iff.1 same
    next => cases read
  · rintro ⟨lexemes, lexed, read⟩
    rw [lexed, Option.bind_some, read]

/-- A written key is read back. -/
theorem directives_key (path : List Name) {lexemes : List Lexeme}
    (same : lexemes.map Lexeme.token = (key path).tokens) :
    Reading.directives constant levels lexemes = some ([key path], []) := by
  have fits : ∀ directive ∈ [key path], directive.FitsIn levels := by
    intro directive member argument among
    rw [List.mem_singleton.1 member] at among
    rw [List.mem_singleton.1 among]
    exact ⟨rfl, Nat.zero_le _⟩
  have nothing : Reading.directives constant levels [] = some ([], []) :=
    Reading.afterSeparators_of_next_ne (by simp [Lexeme.next])
  have spelled : lexemes.map Lexeme.token = [key path].flatMap tokens := by
    rw [same, List.flatMap_singleton]
  have read := Reading.directives_append fits spelled (by simp [Lexeme.next]) nothing
  rwa [List.append_nil, List.append_nil] at read

theorem applied?_keyDirective (path : List Name) :
    applied? constant levels (Options.keyDirective path) = some [key path] := by
  rw [← text_key]
  obtain ⟨lexemes, same, lexed⟩ := (key path).spells.lexemes?_eq false
  exact applied?_eq_some_iff.2 ⟨lexemes, lexed, directives_key path same⟩

/-- A key behind a text, after a space, is one more directive where every comment ends. -/
theorem applied?_append_keyDirective (ended : Token.commentsEnd text.toList = true)
    (read : applied? constant levels text = some applied) (path : List Name) :
    applied? constant levels (text ++ " " ++ Options.keyDirective path) =
      some (applied ++ [key path]) := by
  obtain ⟨lexemes, lexed, directed⟩ := applied?_eq_some_iff.1 read
  have behind : Token.Spells (" " ++ (key path).text).toList (key path).tokens := by
    rw [String.toList_append]
    exact Token.Spells.ignored rfl (key path).spells
  have ends : Token.Ends (" " ++ (key path).text).toList := by
    rw [String.toList_append]
    exact (Token.ends_cons _ _).2 (by decide)
  have whole := (Token.Spells.of_commentsEnd ended lexed).append behind ends
  obtain ⟨both, same, found⟩ := whole.lexemes?_eq false
  obtain ⟨front, back, rfl, first, second⟩ := List.map_eq_append_iff.1 same
  refine applied?_eq_some_iff.2 ⟨front ++ back, ?_, ?_⟩
  · rw [Token.ofText?, ← text_key, String.append_assoc, String.toList_append, found]
  · refine Reading.directives_append_of_read directed first ?_ (directives_key path second)
    have begins : Lexeme.next (back ++ []) = _ := Lexeme.next_append second
    rw [List.append_nil] at begins
    rw [begins]
    simp

/-- A key behind a text is in the comment that does not end there. -/
theorem applied?_append_keyDirective_of_unended (unended : Token.commentsEnd text.toList = false)
    (read : applied? constant levels text = some applied) (path : List Name) :
    applied? constant levels (text ++ " " ++ Options.keyDirective path) = some applied := by
  obtain ⟨lexemes, lexed, directed⟩ := applied?_eq_some_iff.1 read
  refine applied?_eq_some_iff.2 ⟨lexemes, ?_, directed⟩
  rw [Token.ofText?, String.append_assoc, String.toList_append]
  refine Token.lexemes?_append_of_not_commentsEnd unended ?_ ?_ lexed
  · rw [String.toList_append]
    exact (Token.ends_cons _ _).2 (by decide)
  · have ordinary : ∀ c ∈ (Key.text path).toList, Token.isLineEnd c = false := fun c member =>
      Key.isLineEnd_of_isPlain (List.all_eq_true.1 (Key.all_isPlain path) c member)
    have quiet {part : String} (none : (part.toList.all fun c => !Token.isLineEnd c) = true) :
        ∀ c ∈ part.toList, Token.isLineEnd c = false := by
      intro c member
      rw [← Bool.not_eq_true']
      exact List.all_eq_true.1 none c member
    intro c member
    rw [Options.keyDirective] at member
    simp only [String.toList_append, List.mem_append] at member
    rcases member with space | (front | inside) | back
    · exact quiet (by decide) c space
    · exact quiet (by decide) c front
    · exact ordinary c inside
    · exact quiet (by decide) c back

/-- Whether a directive with a name is among some directives. -/
def Applies (name : String) (applied : List Directive) : Prop :=
  ∃ directive ∈ applied, directive.name.text = name

instance (name : String) (applied : List Directive) : Decidable (Applies name applied) :=
  inferInstanceAs (Decidable (∃ directive ∈ applied, _))

theorem applies_append {name : String} {first second : List Directive} :
    Applies name (first ++ second) ↔ Applies name first ∨ Applies name second := by
  simp only [Applies, List.mem_append, or_and_right, exists_or]

theorem applies_key (path : List Name) : Applies "key" [key path] :=
  ⟨key path, List.mem_singleton_self _, rfl⟩

end Directive

/-! ## Directives of the caller -/

namespace Options

section

variable (constant : Bool) (levels : Nat) (options : Options) (type : String)

/-- The directives that the caller's text applies to a type. -/
def applied : List Directive :=
  ((options.directivesOf type).bind (Directive.applied? constant levels)).getD []

/-- The caller's text for a type, if there is one, is a list of directives. -/
def IsDirected : Prop :=
  ∀ text, options.directivesOf type = some text →
    (Directive.applied? constant levels text).isSome = true

/-- Every comment in the caller's text for a type ends with its line. -/
def EndsComments : Prop :=
  ∀ text, options.directivesOf type = some text → Token.commentsEnd text.toList = true

end

variable {constant : Bool} {levels : Nat} {options effective : Options} {type : String}

/-- Where a key is put behind the caller's text, a key is applied, unless a comment takes it in. -/
theorem applies_key_iff (directed : options.IsDirected constant levels type) {path : List Name}
    (added : effective.directivesOf type =
      some (spaced (options.directivesOf type) ++ keyDirective path)) :
    Directive.Applies "key" (effective.applied constant levels type) ↔
      options.EndsComments type ∨
        Directive.Applies "key" (options.applied constant levels type) := by
  unfold applied
  rw [added, Option.bind_some]
  cases said : options.directivesOf type with
  | none =>
      have silent : options.EndsComments type := by
        intro text same
        rw [said] at same
        cases same
      rw [spaced, String.empty_append, Directive.applied?_keyDirective]
      exact iff_of_true (Directive.applies_key path) (Or.inl silent)
  | some text =>
      obtain ⟨applied, read⟩ := Option.isSome_iff_exists.1 (directed text said)
      rw [spaced, Option.bind_some, read, Option.getD_some]
      cases ended : Token.commentsEnd text.toList with
      | true =>
          have all : options.EndsComments type := by
            intro other same
            rw [said] at same
            cases same
            exact ended
          rw [Directive.applied?_append_keyDirective ended read, Option.getD_some,
            Directive.applies_append]
          exact iff_of_true (Or.inr (Directive.applies_key path)) (Or.inl all)
      | false =>
          have notAll : ¬ options.EndsComments type := fun all => by
            rw [all text said] at ended
            cases ended
          rw [Directive.applied?_append_keyDirective_of_unended ended read, Option.getD_some,
            or_iff_right notAll]

/-- A text with a key behind it is another text. -/
theorem spaced_append_keyDirective_ne (said : Option String) (path : List Name) :
    said ≠ some (spaced said ++ keyDirective path) := by
  cases said with
  | none => exact Option.some_ne_none _ ∘ Eq.symm
  | some text =>
      intro same
      have lengths := congrArg String.length (Option.some.inj same)
      rw [spaced, String.length_append, String.length_append] at lengths
      have blank : " ".length = 1 := rfl
      omega

end Options

/-! ## Keys and marks by name -/

namespace Schema

/-- An entity is keyed by the names of the directives that are applied to it. -/
structure KeyedByName (constant : Bool) (levels : Nat) (schema : Schema)
    (resolvers : ResolverTable) (options : Options) (type : TypeDefinition) : Prop where
  /-- There is a key among the directives of the schema and those of the options that hold. -/
  keyed : Directive.Applies "key" (type.directives ++
    (schema.effectiveOptions resolvers options).applied constant levels type.name.text)
  /-- The inferred key is put behind the caller's text exactly when neither the schema nor the
  caller applies one. -/
  added : (∃ path, Key.infer? schema type = some path ∧
      (schema.effectiveOptions resolvers options).directivesOf type.name.text =
        some (Options.spaced (options.directivesOf type.name.text) ++ Options.keyDirective path)) ↔
    ¬ Directive.Applies "key"
      (type.directives ++ options.applied constant levels type.name.text)

/-- A root type is marked by the names of the directives that are applied to it: where the caller
does not say whether it is an extension and nobody applies the directive that does, it is one. -/
def MarkedByName (constant : Bool) (levels : Nat) (schema : Schema) (resolvers : ResolverTable)
    (options : Options) (type : TypeDefinition) : Prop :=
  options.extendOf type.name.text = none →
    ¬ Directive.Applies "extends"
        (type.directives ++ options.applied constant levels type.name.text) →
      (schema.effectiveOptions resolvers options).extendOf type.name.text = some true

section

variable {constant : Bool} {levels : Nat} {schema : Schema} {resolvers : ResolverTable}
  {options : Options} {type : TypeDefinition}

theorem keyGap_iff (entity : schema.IsEntity type) :
    KeyGap schema options type ↔
      ¬ Directive.Applies "key" type.directives ∧ ¬ options.Mentions type.name.text "@key" := by
  constructor
  · intro gap
    exact ⟨fun ⟨directive, member, named⟩ => gap.unmarked directive member named, gap.unmentioned⟩
  · rintro ⟨unmarked, unmentioned⟩
    exact ⟨entity, fun directive member named => unmarked ⟨directive, member, named⟩, unmentioned⟩

theorem extendGap_iff (declared : type ∈ schema.declared)
    (root : type.name.text ∈ ["Query", "Mutation", "Subscription"]) :
    ExtendGap schema options type ↔
      ¬ Directive.Applies "extends" type.directives ∧ options.extendOf type.name.text = none ∧
        ¬ options.Mentions type.name.text "@extends" := by
  constructor
  · intro gap
    exact ⟨fun ⟨directive, member, named⟩ => gap.unmarked directive member named, gap.unsaid,
      gap.unmentioned⟩
  · rintro ⟨unmarked, unsaid, unmentioned⟩
    exact ⟨declared, root, fun directive member named => unmarked ⟨directive, member, named⟩,
      unsaid, unmentioned⟩

/-- Where there is no gap, the text is the caller's. -/
theorem keyedByName_iff_of_not_keyGap (auto : options.auto = true) (entity : schema.IsEntity type)
    (noGap : ¬ KeyGap schema options type) :
    schema.KeyedByName constant levels resolvers options type ↔
      Directive.Applies "key"
        (type.directives ++ options.applied constant levels type.name.text) := by
  have kept : (schema.effectiveOptions resolvers options).directivesOf type.name.text =
      options.directivesOf type.name.text := by
    rw [effectiveOptions, if_pos auto]
    refine Options.directivesOf_synthesize_of_no_gap fun other named gap => noGap ?_
    rwa [← eq_of_name_eq gap.entity.declared entity.declared named]
  constructor
  · intro keyed
    have found := keyed.keyed
    rwa [Options.applied, kept] at found
  · intro applies
    refine ⟨by rwa [Options.applied, kept], iff_of_false ?_ (not_not_intro applies)⟩
    rintro ⟨path, _, added⟩
    exact Options.spaced_append_keyDirective_ne _ _ (kept.symm.trans added)

/-- Where there is a gap, the inferred key is behind the caller's text. -/
theorem keyedByName_iff_of_keyGap (auto : options.auto = true)
    (directed : options.IsDirected constant levels type.name.text)
    (gap : KeyGap schema options type) :
    schema.KeyedByName constant levels resolvers options type ↔
      ¬ Directive.Applies "key" (options.applied constant levels type.name.text) ∧
        options.EndsComments type.name.text := by
  have unmarked := ((keyGap_iff gap.entity).1 gap).1
  obtain ⟨path, inferred, added⟩ : ∃ path, Key.infer? schema type = some path ∧
      (schema.effectiveOptions resolvers options).directivesOf type.name.text =
        some (Options.spaced (options.directivesOf type.name.text) ++
          Options.keyDirective path) := by
    rw [effectiveOptions, if_pos auto]
    exact Options.directivesOf_synthesize_of_gap gap
  have found := Options.applies_key_iff directed added
  constructor
  · intro keyed
    have unapplied := keyed.added.1 ⟨path, inferred, added⟩
    rw [Directive.applies_append, or_iff_right unmarked] at unapplied
    have applies := keyed.keyed
    rw [Directive.applies_append, or_iff_right unmarked, found] at applies
    exact ⟨unapplied, applies.resolve_right unapplied⟩
  · rintro ⟨unapplied, ended⟩
    refine ⟨?_, iff_of_true ⟨path, inferred, added⟩ ?_⟩
    · rw [Directive.applies_append, found]
      exact Or.inr (Or.inl ended)
    · rwa [Directive.applies_append, or_iff_right unmarked]

theorem keyedByName_iff (auto : options.auto = true) (entity : schema.IsEntity type)
    (directed : options.IsDirected constant levels type.name.text) :
    schema.KeyedByName constant levels resolvers options type ↔
      Directive.Applies "key" type.directives ∨
        (options.Mentions type.name.text "@key" ↔
          Directive.Applies "key" (options.applied constant levels type.name.text)) ∧
        (Directive.Applies "key" (options.applied constant levels type.name.text) ∨
          options.EndsComments type.name.text) := by
  by_cases gap : KeyGap schema options type
  · obtain ⟨unmarked, unmentioned⟩ := (keyGap_iff entity).1 gap
    rw [keyedByName_iff_of_keyGap auto directed gap, or_iff_right unmarked,
      iff_false_left unmentioned]
    exact and_congr_right fun unapplied => (or_iff_right unapplied).symm
  · rw [keyedByName_iff_of_not_keyGap auto entity gap, Directive.applies_append]
    by_cases marked : Directive.Applies "key" type.directives
    · exact iff_of_true (Or.inl marked) (Or.inl marked)
    · have mentioned : options.Mentions type.name.text "@key" :=
        not_not.1 fun unmentioned => gap ((keyGap_iff entity).2 ⟨marked, unmentioned⟩)
      rw [or_iff_right marked, or_iff_right marked, iff_true_left mentioned]
      exact ⟨fun applies => ⟨applies, Or.inl applies⟩, And.left⟩

theorem markedByName_iff (auto : options.auto = true) (declared : type ∈ schema.declared)
    (root : type.name.text ∈ ["Query", "Mutation", "Subscription"]) :
    schema.MarkedByName constant levels resolvers options type ↔
      (options.extendOf type.name.text = none →
        ¬ Directive.Applies "extends" type.directives →
          options.Mentions type.name.text "@extends" →
            Directive.Applies "extends" (options.applied constant levels type.name.text)) := by
  have holds : schema.effectiveOptions resolvers options = options.synthesize schema resolvers := by
    rw [effectiveOptions, if_pos auto]
  unfold MarkedByName
  rw [holds, Directive.applies_append, not_or]
  refine imp_congr_right fun unsaid => ⟨fun marks unmarked mentioned => ?_, fun told fresh => ?_⟩
  · by_contra unapplied
    have marked := marks ⟨unmarked, unapplied⟩
    rw [Options.extendOf_synthesize_of_no_gap fun other named gap => ?_, unsaid] at marked
    · cases marked
    · rw [eq_of_name_eq gap.declared declared named] at gap
      exact gap.unmentioned mentioned
  · obtain ⟨unmarked, unapplied⟩ := fresh
    have unmentioned : ¬ options.Mentions type.name.text "@extends" := fun mentioned =>
      unapplied (told unmarked mentioned)
    exact Options.extendOf_synthesize_of_gap
      ((extendGap_iff declared root).2 ⟨unmarked, unsaid, unmentioned⟩)

/-- With automatic options, an entity is keyed by name exactly where the caller's text mentions a
key if it applies one, and has no comment at its end that takes in the inferred one.  A root type is
marked by name exactly where the caller's text does not mention the directive without applying
it. -/
theorem byName_iff (schema : Schema) (resolvers : ResolverTable) {options : Options}
    (auto : options.auto = true) (constant : Bool) (levels : Nat) :
    (∀ type, schema.IsEntity type → options.IsDirected constant levels type.name.text →
      (schema.KeyedByName constant levels resolvers options type ↔
        Directive.Applies "key" type.directives ∨
          (options.Mentions type.name.text "@key" ↔
            Directive.Applies "key" (options.applied constant levels type.name.text)) ∧
          (Directive.Applies "key" (options.applied constant levels type.name.text) ∨
            options.EndsComments type.name.text))) ∧
      ∀ type ∈ schema.declared, type.name.text ∈ ["Query", "Mutation", "Subscription"] →
        (schema.MarkedByName constant levels resolvers options type ↔
          (options.extendOf type.name.text = none →
            ¬ Directive.Applies "extends" type.directives →
              options.Mentions type.name.text "@extends" →
                Directive.Applies "extends" (options.applied constant levels type.name.text))) :=
  ⟨fun _ entity directed => keyedByName_iff auto entity directed,
    fun _ declared root => markedByName_iff auto declared root⟩

end

theorem usersQuery_mem_declared : usersQuery ∈ users.declared := List.mem_cons_self

theorem isEntity_usersUser : users.IsEntity usersUser :=
  (isEntity_iff (List.mem_cons_of_mem _ List.mem_cons_self)).1 (by decide)

/-- Automatic options with directives for the root type and the entity. -/
def usersDirected (query user : String) : Options where
  auto := true
  types := .ofList [("Query", { directives := some query }), ("User", { directives := some user })]

/-- Options with an extra directive, and with a string that mentions one. -/
def usersShared : Options :=
  usersDirected "@tag(name: \"extends\")" "@shareable # with all\n"

/-- Options with a directive whose name begins with that of a key, and with a string that mentions
a mark. -/
def usersKeyboard : Options := usersDirected "@tag(name: \"@extends\")" "@keyboard"

theorem isDirected_usersUser {query user : String}
    (listed : (Directive.applied? true Reading.nestingLimit user).isSome = true) :
    (usersDirected query user).IsDirected true Reading.nestingLimit usersUser.name.text := by
  intro text same
  cases same
  exact listed

theorem byName_iff_users :
    users.KeyedByName true Reading.nestingLimit .empty usersShared usersUser ∧
      users.MarkedByName true Reading.nestingLimit .empty usersShared usersQuery := by
  obtain ⟨keyed, marked⟩ :=
    byName_iff users .empty (rfl : usersShared.auto = true) true Reading.nestingLimit
  have noKey : ¬ usersShared.Mentions "User" "@key" :=
    (Options.any_mentions_eq_false_iff _ _).1 (by decide)
  have noMark : ¬ usersShared.Mentions "Query" "@extends" :=
    (Options.any_mentions_eq_false_iff _ _).1 (by decide)
  refine ⟨(keyed usersUser isEntity_usersUser (isDirected_usersUser (by decide +kernel))).2
    (Or.inr ⟨iff_of_false noKey (by decide +kernel), Or.inr ?_⟩),
    (marked usersQuery usersQuery_mem_declared (by decide)).2 fun _ _ mentioned =>
      absurd mentioned noMark⟩
  intro text same
  cases same
  decide +kernel

/-- A directive whose name goes on behind that of a key, and a string in which there is the name of
a mark, are taken for the key and the mark. -/
theorem not_byName_users :
    (users.IsEntity usersUser ∧
      usersKeyboard.IsDirected true Reading.nestingLimit "User" ∧
      ¬ users.KeyedByName true Reading.nestingLimit .empty usersKeyboard usersUser) ∧
    (usersQuery ∈ users.declared ∧ usersQuery.name.text = "Query" ∧
      (Directive.applied? true Reading.nestingLimit "@tag(name: \"@extends\")").isSome = true ∧
      ¬ users.MarkedByName true Reading.nestingLimit .empty usersKeyboard usersQuery) := by
  refine ⟨⟨isEntity_usersUser, isDirected_usersUser (by decide +kernel), fun keyed => ?_⟩,
    usersQuery_mem_declared, rfl, by decide +kernel, fun marks => ?_⟩
  · exact absurd keyed.keyed (by decide +kernel)
  · exact absurd (marks (by decide) (by decide +kernel)) (by decide +kernel)

end Schema

end Subgraph
