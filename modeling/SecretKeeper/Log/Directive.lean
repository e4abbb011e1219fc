import SecretKeeper.Log.Limit
import SecretKeeper.Text.Alphanumeric
import SecretKeeper.Text.Blank
import SecretKeeper.Text.Cut
import SecretKeeper.Text.Pattern.Reader
import SecretKeeper.Text.Pattern.Search

/-!
Directives say how much is logged, and of what: `target[span{field=value}]=limit`, where every
part may be missing. Without a target a directive is about all of them, without a limit it lets
everything through.
-/
namespace SecretKeeper.Log

open Text

/-- What the value of a field has to be. A number or a truth value is the value of no span's field,
because those are texts. -/
inductive Expected where
  | constant (written : String)
  | text (written : String) (pattern : Pattern)
  deriving DecidableEq, Repr

namespace Expected

def ofChars? (s : List Char) : Option Expected :=
  if String.ofList s = "true" || String.ofList s = "false" || isReal s then
    some (constant (String.ofList s))
  else (Pattern.ofChars? s).map (text (String.ofList s))

def accepts : Expected → String → Bool
  | constant _, _ => false
  | text _ pattern, value => pattern.accepts value

end Expected

structure FieldFilter where
  name : String
  expected : Option Expected
  deriving DecidableEq, Repr

/-- A field filter from a name and, after an equals sign, a value; there is nothing to read after a
second equals sign. -/
def FieldFilter.ofChars? (s : List Char) : Option FieldFilter :=
  let name := String.ofList (s.takeWhile (· != '='))
  match s.dropWhile (· != '=') with
  | [] => if s.isEmpty then none else some ⟨name, none⟩
  | _ :: value =>
    (Expected.ofChars? (value.takeWhile (· != '='))).map fun expected => ⟨name, some expected⟩

structure Directive where
  target : String
  span : Option String
  field : Option FieldFilter
  limit : Limit
  deriving DecidableEq, Repr

namespace Directive

/-- What a reader is in the middle of; the numbers are the byte positions at which that began. -/
inductive Stage where
  | opening
  | targetOrLimit (start : Nat)
  | span (start : Nat)
  | field (start : Nat)
  | fieldEnd
  | spanEnd
  | limit (start : Nat)
  deriving DecidableEq, Repr

inductive Fault where
  | malformed
  | splitCharacter
  deriving DecidableEq, Repr

def cut (piece : List Char) (start stop : Nat) : Except Fault (List Char) :=
  ((cutBytes? start stop piece).map .ok).getD (.error .splitCharacter)

def cutRest (piece : List Char) (start : Nat) : Except Fault (List Char) :=
  ((dropBytes? start piece).map .ok).getD (.error .splitCharacter)

def canOpen (c : Char) : Bool := isAlphanumeric c || c = '-' || c = ':' || c = '_'

/-- Takes in the character at a position. What is read is cut out of the piece at such positions,
although they count from behind the white space at its start. -/
def advance (piece : List Char) (d : Directive) (i : Nat) (c : Char) :
    Stage → Except Fault (Directive × Stage)
  | .opening =>
    if c = '[' then .ok (d, .span (i + 1))
    else if canOpen c then .ok (d, .targetOrLimit i)
    else .error .malformed
  | .targetOrLimit start =>
    if c = '=' then
      (cut piece start i).map fun s => ({ d with target := String.ofList s }, .limit (i + 1))
    else if c = '[' then
      (cut piece start i).map fun s => ({ d with target := String.ofList s }, .span (i + 1))
    else .ok (d, .targetOrLimit start)
  | .span start =>
    if c = ']' then
      (cut piece start i).map fun s => ({ d with span := some (String.ofList s) }, .spanEnd)
    else if c = '\x7b' then
      (cut piece start i).map fun s =>
        ({ d with span := if s.isEmpty then none else some (String.ofList s) }, .field (i + 1))
    else .ok (d, .span start)
  | .field start =>
    if c = '\x7d' then do
      match FieldFilter.ofChars? (← cut piece start i) with
      | some f => return ({ d with field := some f }, .fieldEnd)
      | none => throw .malformed
    else .ok (d, .field start)
  | .fieldEnd => if c = ']' then .ok (d, .spanEnd) else .error .malformed
  | .spanEnd => if c = '=' then .ok (d, .limit (i + 1)) else .error .malformed
  | .limit start => .ok (d, .limit start)

def finish (piece : List Char) (d : Directive) : Stage → Except Fault Directive
  | .targetOrLimit start =>
    (cutRest piece start).map fun word =>
      match Limit.ofChars? word with
      | some limit => { d with limit }
      | none => { d with target := String.ofList word }
  | .limit start => do
    let word ← cutRest piece start
    if word.isEmpty then return d
    match Limit.ofChars? word with
    | some limit => return { d with limit }
    | none => throw .malformed
  | .spanEnd => .ok d
  | _ => .error .malformed

def read (piece : List Char) : List Char → Nat → Directive → Stage → Except Fault Directive
  | [], _, d, stage => d.finish piece stage
  | c :: cs, i, d, stage =>
    match d.advance piece i c stage with
    | .ok (d', stage') => read piece cs (i + c.utf8Size) d' stage'
    | .error f => .error f

def all : Directive := ⟨"", none, none, .upTo .trace⟩

def ofChars (piece : List Char) : Except Fault Directive := read piece (trim piece) 0 all .opening

def isPlain (d : Directive) : Bool := d.span.isNone && (d.field.bind FieldFilter.expected).isNone

def isAboutSpans (d : Directive) : Bool := d.span.isSome || d.field.isSome

def looksAtValue (d : Directive) : Bool := (d.field.bind FieldFilter.expected).isSome

def sameSelection (d e : Directive) : Bool :=
  d.target = e.target && d.span = e.span && d.field = e.field

def concernsTarget (d : Directive) (target : String) : Bool :=
  d.target.toList.isPrefixOf target.toList

def concernsEvent (d : Directive) (e : Event) : Bool :=
  d.concernsTarget e.target && d.field.all fun f => e.hasField f.name

def concernsSpan (d : Directive) (target : String) (s : Span) : Bool :=
  d.concernsTarget target && d.span.all (· == Span.name) &&
    d.field.all fun f => s.fields.any (·.1 == f.name)

def acceptsValue (d : Directive) (s : Span) : Bool :=
  d.field.all fun f => f.expected.all fun x => (s.fields.lookup f.name).any x.accepts

/-- Whether the first of two directives is the less specific one: by the length of the target, then
by having a field, then by the name of the field. -/
def isLessSpecific (d e : Directive) : Bool :=
  let names := (d.field.map FieldFilter.name, e.field.map FieldFilter.name)
  d.target.length < e.target.length || d.target.length = e.target.length &&
    match names with
    | (none, some _) => true
    | (some a, some b) => a < b
    | _ => false

end Directive
end SecretKeeper.Log
