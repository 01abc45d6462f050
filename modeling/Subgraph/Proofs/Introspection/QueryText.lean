import Subgraph.Introspection.Query
import Subgraph.Language.Document.Reader
import Subgraph.Proofs.Introspection.Kept
import Subgraph.Proofs.Language.Spelling

/-!
# What the text of the introspection query asks for

* `Document.asked?` is what a query asks for once its fragments are spread.
* `AreLines` is how the lines of a query are put together, each with its tokens.
* `Query.asked` is what the introspection query asks for, and
  `asked?_query` that its text says so.
-/

namespace Subgraph

/-! ## What a document asks for -/

namespace Selection

mutual

/-- What a selection asks for, without conditions. -/
def asked? (fragments : Name → Option Asked) : Selection → Option Asked
  | field responseKey name _ [] selections => do
      let inside ← askedAll? fragments selections
      return .member (responseKey.getD name).text inside .nothing
  | spread fragment [] => fragments fragment
  | inline none [] selections => askedAll? fragments selections
  | _ => none

/-- What some selections ask for. -/
def askedAll? (fragments : Name → Option Asked) : List Selection → Option Asked
  | [] => some .nothing
  | selection :: others => do
      return (← asked? fragments selection).union (← askedAll? fragments others)

end

end Selection

namespace Document

/-- The fragment with a name. -/
def fragment? (document : Document) (name : Name) : Option Fragment :=
  document.findSome? fun
    | .fragment fragment => if fragment.name = name then some fragment else none
    | _ => none

/-- What a fragment asks for, with others spread in it so deep at most. -/
def fragmentAsked? (document : Document) : Nat → Name → Option Asked
  | 0, _ => none
  | depth + 1, name => do
      let fragment ← document.fragment? name
      Selection.askedAll? (document.fragmentAsked? depth) fragment.selections

/-- What the operation of a document with only one asks for. -/
def asked? (document : Document) : Option Asked :=
  match document.filterMap fun | .operation operation => some operation | _ => none with
  | [operation] =>
      Selection.askedAll? (document.fragmentAsked? document.length) operation.selections
  | _ => none

end Document

/-! ## Texts without commas -/

namespace Token

/-- A text is read as some tokens, none behind a comma, whatever ends the last. -/
def SpellsPlainly (cs : List Char) (tokens : List Token) : Prop :=
  ∀ rest, Ends rest →
    lexemes? false (cs ++ rest) = (lexemes? false rest).map (tokens.map (⟨·, false⟩) ++ ·)

namespace SpellsPlainly

theorem nil : SpellsPlainly [] [] := by
  intro rest _
  simp only [List.nil_append, List.map_nil, Option.map_id']

theorem append {cs ds : List Char} {tokens others : List Token} (first : SpellsPlainly cs tokens)
    (second : SpellsPlainly ds others) (ends : Ends ds) :
    SpellsPlainly (cs ++ ds) (tokens ++ others) := by
  intro rest stops
  rw [List.append_assoc, first _ (ends.append stops), second rest stops, Option.map_map]
  simp only [Function.comp_def, List.map_append, List.append_assoc]

theorem of_readOne {cs ds : List Char} {token : Token} {tokens : List Token}
    (read : ∀ rest, Ends rest → readOne (cs ++ rest) = some (token, ds ++ rest))
    (spells : SpellsPlainly ds tokens) : SpellsPlainly cs (token :: tokens) := by
  intro rest ends
  rw [lexemes?_of_readOne (read rest ends), spells rest ends, Option.map_map]
  rfl

theorem name (name : Name) : SpellsPlainly name.text.toList [.name name] := by
  have read (rest : List Char) (ends : Ends rest) :
      readOne (name.text.toList ++ rest) = some (.name name, [] ++ rest) := readOne_name name ends
  exact of_readOne read nil

theorem punctuator {c : Char} {cs : List Char} {tokens : List Token} {mark : Punctuator}
    (written : Punctuator.ofChar? c = some mark) (spells : SpellsPlainly cs tokens) :
    SpellsPlainly (c :: cs) (.punctuator mark :: tokens) :=
  of_readOne (fun _ _ => readOne_punctuator _ written) spells

theorem ignored {c : Char} {cs : List Char} {tokens : List Token} (isIgnored : isIgnored c = true)
    (spells : SpellsPlainly cs tokens) : SpellsPlainly (c :: cs) tokens := by
  intro rest ends
  rw [List.cons_append, lexemes?_ignored isIgnored]
  exact spells rest ends

/-- A fragment that is spread. -/
theorem spread (fragment : Name) :
    SpellsPlainly ("..." ++ fragment.text).toList [.punctuator .spread, .name fragment] := by
  rw [String.toList_append]
  exact of_readOne (fun _ _ => rfl) (name fragment)

theorem lexemes?_eq {cs : List Char} {tokens : List Token} (spells : SpellsPlainly cs tokens) :
    lexemes? false cs = some (tokens.map (⟨·, false⟩)) := by
  have whole := spells [] ends_nil
  rwa [List.append_nil, lexemes?_nil, Option.map_some, List.append_nil] at whole

end SpellsPlainly

end Token

open Token (SpellsPlainly ends_cons)

/-! ## Lines -/

/-- Lines that spell some tokens, each for itself. -/
inductive AreLines : List String → List Token → Prop where
  | nil : AreLines [] []
  | cons {line : String} {lines : List String} {tokens others : List Token}
      (first : SpellsPlainly line.toList tokens) (rest : AreLines lines others) :
      AreLines (line :: lines) (tokens ++ others)

namespace AreLines

theorem append {lines more : List String} {tokens others : List Token}
    (first : AreLines lines tokens) (second : AreLines more others) :
    AreLines (lines ++ more) (tokens ++ others) := by
  induction first with
  | nil => exact second
  | cons line _ ih =>
      rw [List.append_assoc]
      exact .cons line ih

/-- Lines with one name on each. -/
theorem names (names : List Name) : AreLines (names.map Name.text) (names.map .name) := by
  induction names with
  | nil => exact .nil
  | cons name names ih => exact .cons (SpellsPlainly.name name) ih

theorem single {line : String} {tokens : List Token} (spells : SpellsPlainly line.toList tokens) :
    AreLines [line] tokens := by
  simpa using AreLines.cons spells .nil

theorem deeper {lines : List String} {tokens : List Token} (areLines : AreLines lines tokens) :
    AreLines (Introspection.Query.deeper lines) tokens := by
  induction areLines with
  | nil => exact .nil
  | cons line _ ih =>
      refine .cons ?_ ih
      rw [String.toList_append]
      exact .ignored rfl (.ignored rfl line)

/-- Lines with only blanks between them are read as the tokens of all. -/
theorem spells_intercalate {separator : String} {lines : List String} {tokens : List Token}
    (areLines : AreLines lines tokens) (ends : ∀ cs, Token.Ends (separator.toList ++ cs))
    (blank : ∀ {cs tokens}, SpellsPlainly cs tokens →
      SpellsPlainly (separator.toList ++ cs) tokens) :
    SpellsPlainly (separator.intercalate lines).toList tokens := by
  induction areLines with
  | nil => exact .nil
  | @cons line lines tokens others first rest ih =>
      cases lines with
      | nil =>
          cases rest
          rw [List.append_nil]
          exact first
      | cons next lines =>
          rw [String.intercalate_cons_cons, String.toList_append, String.toList_append,
            List.append_assoc]
          exact first.append (blank ih) (ends _)

end AreLines

namespace Introspection.Query

/-- A word that is a name. -/
def IsWord (text : String) : Prop := Name.isValid text.toList = true

instance (text : String) : Decidable (IsWord text) :=
  inferInstanceAs (Decidable (Name.isValid text.toList = true))

/-- The name that a word is. -/
def word (text : String) (isWord : IsWord text := by decide) : Name := ⟨text, isWord⟩

/-- The tokens of a selection with others inside it. -/
def groupTokens (head inside : List Token) : List Token :=
  head ++ .punctuator .openBrace :: (inside ++ [.punctuator .closeBrace])

theorem areLines_group {head : String} {lines : List String} {tokens inside : List Token}
    (spells : SpellsPlainly head.toList tokens) (areLines : AreLines lines inside) :
    AreLines (group head lines) (groupTokens tokens inside) := by
  have opens : SpellsPlainly (head ++ " \x7b").toList (tokens ++ [.punctuator .openBrace]) := by
    rw [String.toList_append]
    exact spells.append (.ignored rfl (.punctuator rfl .nil)) ((ends_cons _ _).2 (by decide))
  have closes : AreLines ["\x7d"] [.punctuator .closeBrace] := .single (.punctuator rfl .nil)
  simpa [groupTokens, group] using (AreLines.cons opens areLines.deeper).append closes

theorem spells_single {head inner : String} {tokens inside : List Token}
    (spells : SpellsPlainly head.toList tokens) (spellsInner : SpellsPlainly inner.toList inside) :
    SpellsPlainly (single head inner).toList (groupTokens tokens inside) := by
  have closes : SpellsPlainly " \x7d".toList [.punctuator .closeBrace] :=
    .ignored rfl (.punctuator rfl .nil)
  have opens := spellsInner.append closes ((ends_cons _ _).2 (by decide))
  rw [single, String.toList_append, String.toList_append, String.toList_append, List.append_assoc,
    List.append_assoc]
  exact spells.append (.ignored rfl (.punctuator rfl (.ignored rfl opens)))
    ((ends_cons _ _).2 (by decide))

/-- The tokens of a field with its deprecated ones. -/
def deprecatedTokens (field : Name) : List Token :=
  [.name field, .punctuator .openParen, .name (word "includeDeprecated"),
    .punctuator .colon, .name (word "true"), .punctuator .closeParen]

theorem spells_deprecated (field : Name) :
    SpellsPlainly (field.text ++ "(includeDeprecated: true)").toList (deprecatedTokens field) := by
  have value := (SpellsPlainly.name (word "true")).append
    (.punctuator (c := ')') rfl .nil) ((ends_cons _ _).2 (by decide))
  have argument := (SpellsPlainly.name (word "includeDeprecated")).append
    (.punctuator (c := ':') rfl (.ignored (c := ' ') rfl value)) ((ends_cons _ _).2 (by decide))
  rw [String.toList_append]
  exact (SpellsPlainly.name field).append (.punctuator (c := '(') rfl argument)
    ((ends_cons _ _).2 (by decide))

/-- The tokens of a reference with so many wrappers. -/
def referenceTokens : Nat → List Token
  | 0 => [.name (word "kind"), .name (word "name")]
  | depth + 1 =>
      [.name (word "kind"), .name (word "name")] ++
        groupTokens [.name (word "ofType")] (referenceTokens depth)

theorem areLines_reference (depth : Nat) : AreLines (reference depth) (referenceTokens depth) := by
  have names : AreLines ["kind", "name"] [.name (word "kind"), .name (word "name")] :=
    .names [word "kind", word "name"]
  induction depth with
  | zero => exact names
  | succ depth ih => exact names.append (areLines_group (.name (word "ofType")) ih)

/-- The tokens of a fragment that is spread. -/
def spreadTokens (fragment : Name) : List Token := [.punctuator .spread, .name fragment]

/-- The tokens of what is asked about a schema. -/
def schemaTokens : List Token :=
  groupTokens [.name (word "queryType")] [.name (word "name")] ++
    (groupTokens [.name (word "mutationType")] [.name (word "name")] ++
      (groupTokens [.name (word "subscriptionType")] [.name (word "name")] ++
        (groupTokens [.name (word "types")] (spreadTokens (word "FullType")) ++
          groupTokens [.name (word "directives")]
            ([.name (word "name"), .name (word "description"),
              .name (word "isRepeatable"), .name (word "locations")] ++
              groupTokens [.name (word "args")] (spreadTokens (word "InputValue"))))))

theorem areLines_schema : AreLines schema schemaTokens := by
  have root (field : Name) : SpellsPlainly (single field.text "name").toList
      (groupTokens [.name field] [.name (word "name")]) :=
    spells_single (.name field) (.name (word "name"))
  have types := areLines_group (.name (word "types")) (.single (.spread (word "FullType")))
  have names : AreLines ["name", "description", "isRepeatable", "locations"] _ :=
    .names [word "name", word "description", word "isRepeatable", word "locations"]
  have args := areLines_group (.name (word "args")) (.single (.spread (word "InputValue")))
  have directives := areLines_group (.name (word "directives")) (names.append args)
  exact .cons (root (word "queryType")) <| .cons (root (word "mutationType")) <|
    .cons (root (word "subscriptionType")) <| types.append directives

/-- The tokens of what is asked about a type. -/
def fullTypeTokens : List Token :=
  [.name (word "kind"), .name (word "name"), .name (word "description")] ++
    groupTokens (deprecatedTokens (word "fields"))
      ([.name (word "name"), .name (word "description")] ++
        groupTokens [.name (word "args")] (spreadTokens (word "InputValue")) ++
        groupTokens [.name (word "type")] (spreadTokens (word "TypeRef")) ++
        [.name (word "isDeprecated"), .name (word "deprecationReason")]) ++
    groupTokens [.name (word "inputFields")] (spreadTokens (word "InputValue")) ++
    groupTokens [.name (word "interfaces")] (spreadTokens (word "TypeRef")) ++
    groupTokens (deprecatedTokens (word "enumValues"))
      [.name (word "name"), .name (word "description"), .name (word "isDeprecated"),
        .name (word "deprecationReason")] ++
    groupTokens [.name (word "possibleTypes")] (spreadTokens (word "TypeRef"))

theorem areLines_fullType : AreLines fullType fullTypeTokens := by
  have spreads (field fragment : Name) : AreLines (group field.text ["..." ++ fragment.text])
      (groupTokens [.name field] (spreadTokens fragment)) :=
    areLines_group (.name field) (.single (.spread fragment))
  have names : AreLines ["kind", "name", "description"] _ :=
    .names [word "kind", word "name", word "description"]
  have named : AreLines ["name", "description"] _ := .names [word "name", word "description"]
  have deprecation : AreLines ["isDeprecated", "deprecationReason"] _ :=
    .names [word "isDeprecated", word "deprecationReason"]
  have fields := areLines_group (spells_deprecated (word "fields")) <|
    ((named.append (spreads (word "args") (word "InputValue"))).append
      (spreads (word "type") (word "TypeRef"))).append deprecation
  have values := areLines_group (spells_deprecated (word "enumValues"))
    (named.append deprecation)
  exact ((((names.append fields).append
    (spreads (word "inputFields") (word "InputValue"))).append
      (spreads (word "interfaces") (word "TypeRef"))).append values).append
        (spreads (word "possibleTypes") (word "TypeRef"))

/-- The tokens of what is asked about an argument or an input field. -/
def inputValueTokens : List Token :=
  [.name (word "name"), .name (word "description")] ++
    (groupTokens [.name (word "type")] (spreadTokens (word "TypeRef")) ++
      [.name (word "defaultValue")])

theorem areLines_inputValue : AreLines inputValue inputValueTokens := by
  have named : AreLines ["name", "description"] _ := .names [word "name", word "description"]
  have type : SpellsPlainly (single "type" "...TypeRef").toList _ :=
    spells_single (.name (word "type")) (.spread (word "TypeRef"))
  exact named.append (.cons type (.names [word "defaultValue"]))

/-! ## The whole text -/

/-- Names between blanks. -/
theorem spells_names (names : List Name) :
    SpellsPlainly (" ".intercalate (names.map Name.text)).toList (names.map .name) :=
  (AreLines.names names).spells_intercalate (fun _ => (ends_cons _ _).2 (by decide))
    fun spells => .ignored rfl spells

/-- The tokens of a definition. -/
def definitionTokens (head : List Name) (inside : List Token) : List Token :=
  groupTokens (head.map .name) inside

theorem spells_definition (head : List Name) {lines : List String} {inside : List Token}
    (areLines : AreLines lines inside) :
    SpellsPlainly ("\n".intercalate (group (" ".intercalate (head.map Name.text)) lines)).toList
      (definitionTokens head inside) :=
  (areLines_group (spells_names head) areLines).spells_intercalate
    (fun _ => (ends_cons _ _).2 (by decide)) fun spells => .ignored rfl spells

/-- The tokens of the introspection query. -/
def tokens : List Token :=
  definitionTokens [word "query", word "IntrospectionQuery"]
      (groupTokens [.name (word "__schema")] schemaTokens) ++
    (definitionTokens [word "fragment", word "FullType", word "on", word "__Type"]
        fullTypeTokens ++
      (definitionTokens [word "fragment", word "InputValue", word "on", word "__InputValue"]
          inputValueTokens ++
        definitionTokens [word "fragment", word "TypeRef", word "on", word "__Type"]
          (referenceTokens wrapperDepth)))

theorem spells_query : SpellsPlainly query.toList tokens := by
  have schema := spells_definition [word "query", word "IntrospectionQuery"]
    (areLines_group (.name (word "__schema")) areLines_schema)
  have fullType := spells_definition [word "fragment", word "FullType", word "on", word "__Type"]
    areLines_fullType
  have inputValue := spells_definition
    [word "fragment", word "InputValue", word "on", word "__InputValue"] areLines_inputValue
  have reference := spells_definition [word "fragment", word "TypeRef", word "on", word "__Type"]
    (areLines_reference wrapperDepth)
  have all : AreLines (definitions.map ("\n".intercalate ·)) tokens :=
    .cons schema <| .cons fullType <| .cons inputValue <| .single reference
  exact all.spells_intercalate (fun _ => (ends_cons _ _).2 (by decide))
    fun spells => .ignored rfl (.ignored rfl spells)

/-- The members of what is asked about a reference with so many wrappers. -/
def referenceAsked : Nat → Asked
  | 0 => .ofList [("kind", .nothing), ("name", .nothing)]
  | depth + 1 =>
      .ofList [("kind", .nothing), ("name", .nothing), ("ofType", referenceAsked depth)]

/-- What is asked about a root type. -/
def rootAsked : Asked := .ofList [("name", .nothing)]

/-- What is asked about an argument or an input field. -/
def inputValueAsked : Asked :=
  .ofList [("name", .nothing), ("description", .nothing), ("type", referenceAsked wrapperDepth),
    ("defaultValue", .nothing)]

/-- What is asked about a field. -/
def fieldAsked : Asked :=
  .ofList [("name", .nothing), ("description", .nothing), ("args", inputValueAsked),
    ("type", referenceAsked wrapperDepth), ("isDeprecated", .nothing),
    ("deprecationReason", .nothing)]

/-- What is asked about a value of an enum. -/
def enumValueAsked : Asked :=
  .ofList [("name", .nothing), ("description", .nothing), ("isDeprecated", .nothing),
    ("deprecationReason", .nothing)]

/-- What is asked about a type. -/
def typeAsked : Asked :=
  .ofList [("kind", .nothing), ("name", .nothing), ("description", .nothing),
    ("fields", fieldAsked), ("inputFields", inputValueAsked),
    ("interfaces", referenceAsked wrapperDepth), ("enumValues", enumValueAsked),
    ("possibleTypes", referenceAsked wrapperDepth)]

/-- What is asked about a directive. -/
def directiveAsked : Asked :=
  .ofList [("name", .nothing), ("description", .nothing), ("isRepeatable", .nothing),
    ("locations", .nothing), ("args", inputValueAsked)]

/-- What is asked about a schema. -/
def schemaAsked : Asked :=
  .ofList [("queryType", rootAsked), ("mutationType", rootAsked), ("subscriptionType", rootAsked),
    ("types", typeAsked), ("directives", directiveAsked)]

/-- What the introspection query asks for. -/
def asked : Asked := .ofList [("__schema", schemaAsked)]

theorem asked?_tokens :
    (Reading.definitions (tokens.map (⟨·, false⟩)) >>= Document.asked?) = some asked := by
  decide +kernel

/-- The text of the introspection query asks for what it should. -/
theorem asked?_query : (Document.ofText? query >>= Document.asked?) = some asked := by
  have read : Token.ofText? query = some (tokens.map (⟨·, false⟩)) := spells_query.lexemes?_eq
  rw [Document.ofText?, read]
  exact asked?_tokens

end Introspection.Query

end Subgraph
