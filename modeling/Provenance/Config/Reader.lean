import Provenance.Config
import Provenance.Json.Choice
import Provenance.Json.Lexer
import Provenance.Json.Skip

/-! # Configuration from JSON

    A configuration is an object with some of five fields, or an array of
    their values in order.  Fields that are not given keep their default, and
    unknown fields are skipped; a field given twice is a problem.  The reader
    takes one token at a time, so the first problem of the text decides.

    This is the reader that the JSON library derives from the type of a
    configuration, which has no text of its own in the program.  It follows what
    is documented of derived readers: a record is read as an object or as an array
    of its fields in the order of their declaration, one whose fields have
    defaults takes them for those that are missing, unknown fields are ignored, an
    optional value is null or the value, and a policy is a choice. -/

namespace Provenance.Config

open Provenance.Json

/-- The fields of a configuration. -/
inductive Field where
  | capacity
  | growth
  | file
  | placeholder
  | overhead
deriving DecidableEq

namespace Field

/-- Every field, in the order of the array form. -/
def all : List Field := [capacity, growth, file, placeholder, overhead]

/-- Name of a field in the object form. -/
def name : Field → String
  | capacity => "stats_capacity"
  | growth => "stats_growth"
  | file => "stat_file_path"
  | placeholder => "placeholder_container_name"
  | overhead => "record_overhead"

/-- The field of a given name. -/
def ofName? (text : String) : Option Field := all.find? fun f => f.name == text

end Field

/-- The values given so far. -/
structure Draft where
  capacity : Option Nat
  growth : Option Growth
  file : Option (Option String)
  placeholder : Option String
  overhead : Option Bool
deriving DecidableEq

namespace Draft

/-- No value given. -/
def empty : Draft := ⟨none, none, none, none, none⟩

/-- The field has a value. -/
def has (d : Draft) : Field → Bool
  | .capacity => d.capacity.isSome
  | .growth => d.growth.isSome
  | .file => d.file.isSome
  | .placeholder => d.placeholder.isSome
  | .overhead => d.overhead.isSome

/-- The default configuration, overridden by the values given. -/
def config (d : Draft) : Config where
  statsCapacity := d.capacity.getD default.statsCapacity
  statsGrowth := d.growth.getD default.statsGrowth
  statFile := d.file.getD default.statFile
  placeholderName := d.placeholder.getD default.placeholderName
  recordOverhead := d.overhead.getD default.recordOverhead

end Draft

/-- Where the value of a field stands. -/
inductive Place where
  /-- In an object. -/
  | member
  /-- In an array, after so many values. -/
  | item (before : Nat)
deriving DecidableEq

/-- What comes next. -/
inductive Stage where
  /-- The configuration. -/
  | start
  /-- The first key, or the end of the object. -/
  | firstKey
  /-- A key. -/
  | key
  /-- A comma, or the end of the object. -/
  | nextKey
  /-- The colon after the key of a field, or of no field. -/
  | colon (field : Option Field)
  /-- The value of a field. -/
  | value (field : Field)
  /-- More of a value that is skipped. -/
  | skipping (s : Skip)
  /-- More of a policy. -/
  | policy (place : Place) (stage : ChoiceStage Growth)
  /-- The first value, or the end of the array. -/
  | firstItem
  /-- A value, after a comma. -/
  | item (before : Nat)
  /-- A comma, or the end of the array. -/
  | nextItem (before : Nat)

/-- A configuration in the middle of being read. -/
structure Reading where
  stage : Stage
  draft : Draft

/-- What comes after a value. -/
def Place.next : Place → Stage
  | .member => .nextKey
  | .item before => .nextItem (before + 1)

namespace Reading

/-- Still reading. -/
def more (stage : Stage) (draft : Draft) :
    Except Problem (Progress Reading Draft) :=
  .ok (.more ⟨stage, draft⟩)

/-- One more token of a policy. -/
def policy (draft : Draft) (place : Place) (stage : ChoiceStage Growth)
    (t : Json.Token) : Except Problem (Progress Reading Draft) :=
  match ChoiceStage.step Growth.names stage t with
  | .ok (.more stage) => more (.policy place stage) draft
  | .ok (.done g) => more place.next { draft with growth := some g }
  | .error e => .error e

/-- A path is null or a text. -/
def path (t : Json.Token) : Except Problem (Option String) :=
  match t with
  | .null => .ok none
  | t => (t.string "path string").map some

/-- The first token of the value of a field. -/
def value (draft : Draft) (place : Place) (field : Field) (t : Json.Token) :
    Except Problem (Progress Reading Draft) :=
  match field with
  | .capacity =>
      match t.word "usize" with
      | .ok n => more place.next { draft with capacity := some n }
      | .error e => .error e
  | .growth => policy draft place .start t
  | .file =>
      match path t with
      | .ok p => more place.next { draft with file := some p }
      | .error e => .error e
  | .placeholder =>
      match t.string "a string" with
      | .ok s => more place.next { draft with placeholder := some s }
      | .error e => .error e
  | .overhead =>
      match t.truth "a boolean" with
      | .ok b => more place.next { draft with overhead := some b }
      | .error e => .error e

/-- A key.  A field that has a value already is refused at once. -/
def key (draft : Draft) (t : Json.Token) : Except Problem (Progress Reading Draft) :=
  match t with
  | .text s =>
      match Field.ofName? s with
      | some f =>
          if draft.has f then .error (.mismatch (.duplicateField f.name))
          else more (.colon (some f)) draft
      | none => more (.colon none) draft
  | .brokenText read _ => .error read.problem
  | _ => .error .malformed

/-- A value of the array form. -/
def item (draft : Draft) (before : Nat) (t : Json.Token) :
    Except Problem (Progress Reading Draft) :=
  match Field.all[before]? with
  | some f => value draft (.item before) f t
  | none => .error .malformed

/-- One more token. -/
def step (r : Reading) (t : Json.Token) : Except Problem (Progress Reading Draft) :=
  match r.stage, t with
  | .start, .openObject => more .firstKey r.draft
  | .start, .openArray => more .firstItem r.draft
  | .start, t => t.refuse "struct ProvioConfig"
  | .firstKey, .closeObject => .ok (.done r.draft)
  | .firstKey, t => key r.draft t
  | .key, t => key r.draft t
  | .nextKey, .closeObject => .ok (.done r.draft)
  | .nextKey, .comma => more .key r.draft
  | .nextKey, _ => .error .malformed
  | .colon (some f), .colon => more (.value f) r.draft
  | .colon none, .colon => more (.skipping .start) r.draft
  | .colon _, _ => .error .malformed
  | .value f, t => value r.draft .member f t
  | .skipping s, t =>
      match s.step t with
      | .ok (.more s) => more (.skipping s) r.draft
      | .ok (.done ()) => more .nextKey r.draft
      | .error e => .error e
  | .policy place stage, t => policy r.draft place stage t
  | .firstItem, .closeArray => .ok (.done r.draft)
  | .firstItem, t => item r.draft 0 t
  | .item before, t => item r.draft before t
  | .nextItem _, .closeArray => .ok (.done r.draft)
  | .nextItem before, .comma =>
      if before < Field.all.length then more (.item before) r.draft
      else .error .malformed
  | .nextItem _, _ => .error .malformed

end Reading

/-- The reader of configurations. -/
def reader : Reader Reading Draft := ⟨⟨.start, .empty⟩, Reading.step⟩

/-- Read a configuration that can be used from a JSON text. -/
def ofJson (text : String) : Except Error Config :=
  match reader.read (tokens text) with
  | .ok draft => draft.config.validate
  | .error problem => .error (.json problem)

end Provenance.Config
