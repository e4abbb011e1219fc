import SecretKeeper.Json.Record
import SecretKeeper.Json.Value
import SecretKeeper.Moment.Printer
import SecretKeeper.Moment.Reader
import SecretKeeper.Problem
import SecretKeeper.Secret.Basic

/-!
Secrets as JSON documents. Name and content have to be there, the other members have defaults, and
members with other keys are skipped.
-/
namespace SecretKeeper

open Json

def Moment.reader : Reader Moment :=
  (Reader.textFor "an RFC 3339 formatted date and time string").check true fun s =>
    (Moment.ofChars s.toList).mapError Moment.Fault.message

namespace Secret

namespace Content

def refusal (fault : Base64.Fault) : String := "secret content is not base64: " ++ fault.message

def ofEncoded (s : String) : Except Base64.Fault Content :=
  (Base64.decode s.toUTF8.toList).map (⟨·⟩)

def reader : Reader Content :=
  Reader.text.check false fun s => (ofEncoded s).mapError refusal

def toValue (c : Content) : Value := .text c.encoded

def ofDocument (s : Bytes) : Except Problem Content :=
  (reader.document s).mapError .serialization

end Content

structure Draft where
  name : Option String
  content : Option Content
  length : Option UInt64
  createdAt : Option Moment
  isVersioned : Option Bool
  mode : Option String
  owner : Option String
  group : Option String

def Draft.blank : Draft := ⟨none, none, none, none, none, none, none, none⟩

def Draft.finish (d : Draft) : Except Nat Secret :=
  match d.name, d.content with
  | none, _ => .error 0
  | some _, none => .error 1
  | some name, some content =>
    .ok {
      name, content
      length := d.length.getD 0
      createdAt := d.createdAt.getD Moment.epoch
      isVersioned := d.isVersioned.getD false
      mode := d.mode.getD ""
      owner := d.owner.getD ""
      group := d.group.getD "" }

def columns : List (Column Draft) := [
  ⟨"name", (·.name.isSome), Reader.text.map fun v d => { d with name := some v }⟩,
  ⟨"secret", (·.content.isSome), Content.reader.map fun v d => { d with content := some v }⟩,
  ⟨"secretLength", (·.length.isSome), Reader.word64.map fun v d => { d with length := some v }⟩,
  ⟨"creationDate", (·.createdAt.isSome),
    Moment.reader.map fun v d => { d with createdAt := some v }⟩,
  ⟨"isVersioned", (·.isVersioned.isSome),
    Reader.flag.map fun v d => { d with isVersioned := some v }⟩,
  ⟨"mode", (·.mode.isSome), Reader.text.map fun v d => { d with mode := some v }⟩,
  ⟨"owner", (·.owner.isSome), Reader.text.map fun v d => { d with owner := some v }⟩,
  ⟨"group", (·.group.isSome), Reader.text.map fun v d => { d with group := some v }⟩]

def layout : Layout Draft Secret := ⟨"Secret", columns, Draft.blank, Draft.finish⟩

def reader : Reader Secret := layout.reader

def ofDocument (s : Bytes) : Except Problem Secret :=
  (reader.document s).mapError .serialization

def listOfDocument (s : Bytes) : Except Problem (List Secret) :=
  (reader.list.document s).mapError .serialization

def toValue (s : Secret) : Value :=
  .object [
    ("name", .text s.name),
    ("secret", s.content.toValue),
    ("secretLength", .whole s.length.toNat),
    ("creationDate", .text s.createdAt.text),
    ("isVersioned", .flag s.isVersioned),
    ("mode", .text s.mode),
    ("owner", .text s.owner),
    ("group", .text s.group)]

def render (s : Secret) : String := s.toValue.render

end Secret
end SecretKeeper
