import CriteriaSearch.Declaration.Grammar

/-!
# Reading declarations

From the tokens of source text to settings, tags and types.  Reading a tag does not fail once its
text has the brackets of one: what is malformed stays in the result, for whoever asks for it.
Settings end with the first one that nobody can read to its end.
-/

namespace CriteriaSearch

/-! ## Tags -/

namespace Setting

/-- Tokens behind a double colon, if they begin with one. -/
def afterColons? : List Token → Option (List Token)
  | .mark ':' true :: .mark ':' _ :: rest => some rest
  | _ => none

/-- Reads further parts of a name; only a name of one part is kept. -/
def furtherName (name : Option String) :
    List Token → Except DeclarationError (Option String × List Token)
  | .mark ':' true :: .mark ':' _ :: .word _ :: rest => furtherName none rest
  | tokens =>
    match afterColons? tokens with
    | some rest => .error (.expected "ident" rest.isEmpty)
    | none => .ok (name, tokens)

/-- Reads the name of a setting. -/
def name (tokens : List Token) : Except DeclarationError (Option String × List Token) :=
  let behind := afterColons? tokens
  match behind.getD tokens with
  | .word w :: rest => furtherName (if behind.isSome then none else some w) rest
  | [] => .error .noSetting
  | tokens => .error (if Token.beginWithLiteral tokens then .literalSetting else .straySetting)

/-- Whether a setting ends where the tokens begin. -/
def endsAt (tokens : List Token) : Bool :=
  tokens.isEmpty || Token.beginWith "," tokens

/-- An expression, with the text that it begins with. -/
def expression (opening : Option String) (tokens : List Token) : SettingValue × List Token :=
  let isMissing := tokens.isEmpty
  match Token.afterExpression tokens with
  | .error failure => (.expression { opening, isMissing, failure := some failure }, [])
  | .ok rest => (.expression { opening, isMissing, unfinished := rest.unfinished }, rest.tokens)

/-- Reads what stands behind an equals sign. -/
def assigned (tokens : List Token) : SettingValue × List Token :=
  let opening := match tokens with
    | .text s :: _ => some s
    | _ => none
  match opening with
  | some s =>
    if endsAt (tokens.drop 1) then (.text s, tokens.drop 1) else expression opening tokens
  | none => expression none tokens

/-- Reads settings up to the end of the tokens, of which there are at most as many as steps. -/
def ofTokens (steps : Nat) (tokens : List Token) : List Setting :=
  match steps with
  | 0 => []
  | steps + 1 =>
    match name tokens with
    | .error e => [.malformed e]
    | .ok (name, rest) =>
      let (value, rest) := match rest with
        | .mark '=' _ :: rest => assigned rest
        | .group .round content :: rest => (.list (ofTokens steps content), rest)
        | rest => (if endsAt rest then .bare rest.isEmpty else .stray, rest)
      match rest with
      | [] | [.mark ',' _] => [.named name value false]
      | .mark ',' _ :: rest => .named name value false :: ofTokens steps rest
      | _ => [.named name value true]

end Setting

/-- The arguments of a tag after its name. -/
def TagArguments.ofTokens? : List Token → Option TagArguments
  | [] => some .none
  | .mark '=' _ :: _ => some .assigned
  | [.group _ []] => some (.list [])
  | [.group _ tokens] => some (.list (Setting.ofTokens (Token.totalWeight tokens) tokens))
  | _ => none

/-- The tag of a text. -/
def Tag.ofText? (s : String) : Option Tag := do
  let (name, rest) ← (Setting.name (← Token.ofText? s)).toOption
  (TagArguments.ofTokens? rest).map fun arguments => { name, arguments }

/-! ## Types -/

/-- The type of a text. -/
def FieldType.ofText? (s : String) : Option FieldType := do
  ofTokens? (← Token.ofText? s)

end CriteriaSearch
