import Teletype.Config
import Teletype.Json.Source.Typed
import Teletype.Json.Writer

/-!
# Configurations in JSON

A configuration is written by hand, so it is read with faults: what is wrong with
its text is told together with the place. A field that is not there has its first
value.
-/

namespace Teletype.Config

open Json (nat record text)

/-- Texts as an array. -/
def texts (ss : List String) : Json :=
  .array (ss.map text)

/-- A configuration as a value. -/
def toJson (c : Config) : Json :=
  record
    [("executable", text c.executable),
      ("cwd", match c.cwd with
        | some cwd => text cwd
        | none => .null),
      ("args", texts c.args), ("env", texts c.env), ("transcript_rows", nat c.transcriptRows),
      ("queue_capacity", nat c.queueCapacity)]

/-- The fields in the order in which they are written, and how each is read. -/
def fields : Json.Reader.Fields Config :=
  [("executable", fun c => return { c with executable := ← Json.Reader.text "a string" }),
    ("cwd", fun c =>
      return { c with cwd := ← Json.Reader.nullable (Json.Reader.text "path string") }),
    ("args", fun c => return { c with args := ← Json.Reader.list (Json.Reader.text "a string") }),
    ("env", fun c => return { c with env := ← Json.Reader.list (Json.Reader.text "a string") }),
    ("transcript_rows", fun c => return { c with transcriptRows := ← Json.Reader.count "usize" }),
    ("queue_capacity", fun c => return { c with queueCapacity := ← Json.Reader.count "usize" })]

/-- The text of a configuration, one item a row. -/
def render (c : Config) : String :=
  c.toJson.pretty

/-- The configuration that a text spells, checked or not. -/
def parse (source : String) : Except Json.Fault Config :=
  Json.Reader.whole (Json.Reader.record "struct SessionConfig" fields {}) source

/-- The configuration that a text spells, if it can be used. -/
def load (source : String) : Except ConfigError Config :=
  match parse source with
  | .error fault => .error (.malformed fault)
  | .ok c =>
    match c.fault? with
    | none => .ok c
    | some fault => .error fault

end Teletype.Config
