/-!
# TOML values

What a TOML text says: a table of named values.  A moment is a date, a time of day or both, kept
in its plainest spelling.

A table can be written in many places of a text, but each part of it only once.  `Draft` is a
table while the text is read: it remembers how each table came about, which decides what may still
be added to it.  The three ways to add are the three kinds of line: a header opens a table
(`openTable?`), a double header opens an item of a list of tables (`openItem?`), and a key with
dots puts a value below the table that is open (`put?`).
-/
namespace Scriptorium.Toml

/-- A value. -/
inductive Value where
  | bool (b : Bool)
  | whole (n : Int)
  | float (bits : UInt64)
  | string (s : String)
  | moment (s : String)
  | array (items : List Value)
  | table (members : List (String × Value))
  deriving Repr, Inhabited

/-- The word for the kind of a value. -/
def Value.kind : Value → String
  | .bool _ => "boolean"
  | .whole _ => "integer"
  | .float _ => "float"
  | .string _ => "string"
  | .moment _ => "datetime"
  | .array _ => "array"
  | .table _ => "inline table"

/-- How a table came about. -/
inductive Standing where
  /-- It has a header of its own. -/
  | stated
  /-- It is named in the header of a table inside it. -/
  | implied
  /-- It is named in a key with dots. -/
  | dotted
  deriving DecidableEq, Repr

/-- A value while the text around it is read. -/
inductive Draft where
  /-- A value that nothing can be added to. -/
  | closed (v : Value)
  | table (standing : Standing) (members : List (String × Draft))
  /-- A list of tables, the latest first. -/
  | tables (items : List (List (String × Draft)))
  deriving Repr, Inhabited

/-- The members of a table while the text is read. -/
abbrev Members := List (String × Draft)

namespace Members

/-- The member of a name. -/
def member? (name : String) (m : Members) : Option Draft :=
  (List.find? (fun entry => entry.1 == name) m).map (·.2)

/-- The members with one put in the place of that name, or at the end. -/
def set (name : String) (d : Draft) : Members → Members
  | [] => [(name, d)]
  | (n, e) :: rest => if n = name then (name, d) :: rest else (n, e) :: set name d rest

/-! ## 1. Adding -/

/-- Why a part of a text cannot be added. -/
inductive Clash where
  /-- The name is taken already, in the table that some names lead to, if that is known. -/
  | taken (name : String) (table : Option (List String))
  /-- These names lead to a value of another kind. -/
  | noTable (path : List String) (kind : String)
  deriving DecidableEq, Repr

/-- The words for a clash. -/
def Clash.message : Clash → String
  | .taken name none => s!"duplicate key \x60{name}\x60"
  | .taken name (some []) => s!"duplicate key \x60{name}\x60 in document root"
  | .taken name (some table) =>
    s!"duplicate key \x60{name}\x60 in table \x60" ++ ".".intercalate table ++ "\x60"
  | .noTable path kind =>
    "dotted key \x60" ++ ".".intercalate path
      ++ s!"\x60 attempted to extend non-table type ({kind})"

/-- Does `f` to the table that the names of a header lead to, `done` being those on the way so far in
reverse.  In a list of tables the way goes through the latest. -/
def within (f : Members → Except Clash Members) (done : List String) :
    List String → Members → Except Clash Members
  | [], m => f m
  | name :: rest, m =>
    match m.member? name with
    | none => do return m.set name (.table .implied (← within f (name :: done) rest []))
    | some (.table s inner) => do
      return m.set name (.table s (← within f (name :: done) rest inner))
    | some (.tables items) => do
      return m.set name
        (.tables ((← within f (name :: done) rest (items.headD [])) :: items.tail))
    | some (.closed v) => .error (.noTable (name :: done).reverse v.kind)

/-- Opens the table that the names in `path` and one more lead to.  One that is only implied so far
gets its own contents now. -/
def openTable? (path : List String) (name : String) (m : Members) : Except Clash Members :=
  let opening (m : Members) : Except Clash Members :=
    match m.member? name with
    | none => .ok (m.set name (.table .stated []))
    | some (.table .implied inner) => .ok (m.set name (.table .stated inner))
    | some _ => .error (.taken name (some path))
  within opening [] path m

/-- Opens the next item of a list of tables. -/
def openItem? (path : List String) (name : String) (m : Members) : Except Clash Members :=
  let opening (m : Members) : Except Clash Members :=
    match m.member? name with
    | none => .ok (m.set name (.tables [[]]))
    | some (.tables items) => .ok (m.set name (.tables ([] :: items)))
    | some _ => .error (.taken name (some path))
  within opening [] path m

/-- Puts a value below a table, through tables that only keys with dots name, `done` being the names
on the way so far in reverse.  The table is that of a header, to which `opened` leads, or one in
braces; a table in braces is complete where it ends. -/
def put? (opened : Option (List String)) (v : Value) (name : String) (done : List String) :
    List String → Members → Except Clash Members
  | [], m =>
    if (m.member? name).isSome then .error (.taken name opened) else .ok (m.set name (.closed v))
  | step :: rest, m =>
    let on := put? opened v name (step :: done) rest
    match m.member? step with
    | none => do return m.set step (.table .dotted (← on []))
    | some (.table .stated _) => .error (.taken step none)
    | some (.table s inner) =>
      if s = .implied ∧ rest = [] then .error (.taken name none)
      else do return m.set step (.table s (← on inner))
    | some (.tables items) =>
      if rest = [] then .error (.taken name none)
      else do return m.set step (.tables ((← on (items.headD [])) :: items.tail))
    | some (.closed v) =>
      match v, opened with
      | .table _, none => .error (.taken step none)
      | v, _ => .error (.noTable (step :: done).reverse v.kind)

end Members

/-! ## 2. What has been read -/

mutual

/-- The value that has been read. -/
def Draft.value : Draft → Value
  | .closed v => v
  | .table _ members => .table (valuesOf members)
  | .tables items => .array (tablesOf items).reverse

/-- The values of the members of a table. -/
def valuesOf : List (String × Draft) → List (String × Value)
  | [] => []
  | (name, d) :: rest => (name, d.value) :: valuesOf rest

def tablesOf : List (List (String × Draft)) → List Value
  | [] => []
  | members :: rest => .table (valuesOf members) :: tablesOf rest

end

end Scriptorium.Toml
