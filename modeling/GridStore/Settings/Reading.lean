import GridStore.Settings.Basic
import GridStore.Toml.Document

/-!
# Reading settings

A section is a table, or an array that gives its settings in order. What a section leaves out has
its standard value and what it has besides is passed over; a setting of another type or beyond its
range makes the document one of no settings. A date in place of a section leaves everything out.
-/

namespace GridStore

namespace Toml

/-- What a section gives for a setting, by its name or by its position. -/
def setting? (position : Nat) (name : String) : Toml → Option Toml
  | .inlineTable entries => entries.lookup name
  | .table _ entries => entries.lookup name
  | .array items => items[position]?
  | .tables earlier last => (earlier ++ [last])[position]?.map (.table .header)
  | _ => none

/-- Whether a value can be a section. -/
def isSection : Toml → Bool
  | .inlineTable _ | .table .. | .array _ | .tables .. | .moment => true
  | _ => false

/-- Reads a setting of a section, which has a standard value. -/
def settingOr {α : Type} (v : Toml) (position : Nat) (name : String)
    (read : Toml → Option α) (standard : α) : Option α :=
  match v.setting? position name with
  | some given => read given
  | none => some standard

/-- A text. -/
def asString : Toml → Option String
  | .string s => some s
  | _ => none

/-- A truth value. -/
def asBool : Toml → Option Bool
  | .boolean b => some b
  | _ => none

/-- A number from zero, below a bound. -/
def asNatBelow (bound : Nat) : Toml → Option Nat
  | .integer n => if 0 ≤ n ∧ n < bound then some n.toNat else none
  | _ => none

end Toml

/-- What the numbers of connections are below. -/
def connectionsBound : Nat := 0x100000000

/-- What timeouts and the size of batches are below. -/
def sizeBound : Nat := 0x10000000000000000

/-- Reads the section on the database. -/
def DatabaseSettings.ofToml? (standard : DatabaseSettings) (v : Toml) :
    Option DatabaseSettings :=
  if v.isSection then do
    let path ← v.settingOr 0 "path" Toml.asString standard.path
    let maxConnections ←
      v.settingOr 1 "max_connections" (Toml.asNatBelow connectionsBound) standard.maxConnections
    let minConnections ←
      v.settingOr 2 "min_connections" (Toml.asNatBelow connectionsBound) standard.minConnections
    let connectTimeoutSecs ←
      v.settingOr 3 "connect_timeout_secs" (Toml.asNatBelow sizeBound) standard.connectTimeoutSecs
    let idleTimeoutSecs ←
      v.settingOr 4 "idle_timeout_secs" (Toml.asNatBelow sizeBound) standard.idleTimeoutSecs
    let runMigrations ← v.settingOr 5 "run_migrations" Toml.asBool standard.runMigrations
    some { path, maxConnections, minConnections, connectTimeoutSecs, idleTimeoutSecs,
           runMigrations }
  else none

/-- Reads the section on writes. -/
def WriteSettings.ofToml? (standard : WriteSettings) (v : Toml) : Option WriteSettings :=
  if v.isSection then do
    let batchSize ← v.settingOr 0 "batch_size" (Toml.asNatBelow sizeBound) standard.batchSize
    some ⟨batchSize⟩
  else none

/-- Reads the settings of a document. -/
def Settings.read? (standard : Settings) (text : String) : Option Settings := do
  let entries ← Toml.read? text
  let database ← match entries.lookup "database" with
    | some v => DatabaseSettings.ofToml? standard.database v
    | none => some standard.database
  let writes ← match entries.lookup "writes" with
    | some v => WriteSettings.ofToml? standard.writes v
    | none => some standard.writes
  some { database, writes }

end GridStore
