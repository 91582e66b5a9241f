/-!
# Tables of settings

The values that a TOML document holds, as far as settings need them: texts and truth values with what
they are, numbers and points in time only as such. A table remembers how it came about, because that
decides which later lines may add to it.
-/

namespace DeclGen.Toml

/-- How a table came about: under its own header, as a part of a longer header, as a part of a dotted
key, or between braces. -/
inductive Origin
  | header
  | implied
  | dotted
  | braces
deriving DecidableEq, Repr

/-- A value. `tables` is what headers in double brackets build; it grows by further headers, while
an array between brackets is complete. -/
inductive Value
  | text (s : String)
  | truth (b : Bool)
  | number
  | moment
  | array (items : List Value)
  | table (origin : Origin) (entries : List (String × Value))
  | tables (items : List (List (String × Value)))

/-- A table with its origin. -/
structure Table where
  origin : Origin := .header
  entries : List (String × Value) := []

namespace Table

/-- The value under a key. -/
def get? (t : Table) (key : String) : Option Value := t.entries.lookup key

/-- The table with a value under a key, at the place of the old one if there is one. -/
def put (t : Table) (key : String) (v : Value) : Table :=
  if (t.get? key).isSome then
    { t with entries := t.entries.map fun (k, old) => if k == key then (k, v) else (k, old) }
  else { t with entries := t.entries ++ [(key, v)] }

/-- The table with a new value; no value may be under the key. -/
def add? (t : Table) (key : String) (v : Value) : Option Table :=
  if (t.get? key).isSome then none else some (t.put key v)

/-- The table as a value. -/
def toValue (t : Table) : Value := .table t.origin t.entries

/-- Changes the table at the end of a path. Tables that are not there yet are made, and the last of the
tables under double headers is meant. Tables between braces are complete, and a dotted key does not lead
through a table that has a header. -/
def changeAt? (dotted : Bool) : List String → (Table → Option Table) → Table → Option Table
  | [], change, t => change t
  | key :: path, change, t =>
    match t.get? key with
    | none => do
      let made ← changeAt? dotted path change ⟨if dotted then .dotted else .implied, []⟩
      return t.put key made.toValue
    | some (.table origin entries) =>
      if origin == .braces || dotted && origin == .header then none
      else do return t.put key (← changeAt? dotted path change ⟨origin, entries⟩).toValue
    | some (.tables items) =>
      match items.getLast? with
      | none => none
      | some last => do
        let changed ← changeAt? dotted path change ⟨.header, last⟩
        return t.put key (.tables (items.dropLast ++ [changed.entries]))
    | some _ => none

/-- Adds the value of a key, which is a path to a table and a key in it. A table is filled either by
dotted keys or by plain ones. -/
def addAt? (path : List String) (key : String) (v : Value) (t : Table) : Option Table :=
  t.changeAt? (!path.isEmpty) path fun reached =>
    if (reached.origin == .dotted) != !path.isEmpty then none else reached.add? key v

end Table

/-- What a header opens. -/
structure Header where
  path : List String
  key : String
  /-- The header stands in double brackets and opens one more table of several. -/
  several : Bool
deriving DecidableEq, Repr

/-- A document while it is read: what is complete, and the open header with the table under it. -/
structure Draft where
  complete : Table := {}
  open? : Option Header := none
  body : Table := {}

namespace Draft

/-- The document when the open table is complete. -/
def close? (d : Draft) : Option Table :=
  match d.open? with
  | none => some d.body
  | some h =>
    d.complete.changeAt? false h.path fun parent =>
      if h.several then
        match parent.get? h.key with
        | none => some (parent.put h.key (.tables [d.body.entries]))
        | some (.tables items) => some (parent.put h.key (.tables (items ++ [d.body.entries])))
        | some _ => none
      else some (parent.put h.key (.table .header d.body.entries))

/-- Opens a header. A single header may be the first one of a table that a longer header implied, and
goes on with it. -/
def openHeader? (d : Draft) (h : Header) : Option Draft := do
  let complete ← d.close?
  -- What is under the key of the header now is looked up where the header leads.
  let found ← (findAt? h.path complete).map (·.bind (·.get? h.key))
  match found, h.several with
  | none, _ => return ⟨complete, some h, {}⟩
  | some (.tables _), true => return ⟨complete, some h, {}⟩
  | some (.table .implied entries), false => return ⟨complete, some h, ⟨.header, entries⟩⟩
  | _, _ => none
where
  /-- The table at the end of a header's path, or nothing if it would have to be made. -/
  findAt? : List String → Table → Option (Option Table)
    | [], t => some (some t)
    | key :: path, t =>
      match t.get? key with
      | none => some none
      | some (.table origin entries) =>
        if origin == .braces then none else findAt? path ⟨origin, entries⟩
      | some (.tables items) =>
        match items.getLast? with
        | none => none
        | some last => findAt? path ⟨.header, last⟩
      | some _ => none

/-- Adds a key with its value to the open table. -/
def add? (d : Draft) (path : List String) (key : String) (v : Value) : Option Draft := do
  return { d with body := ← d.body.addAt? path key v }

end Draft

end DeclGen.Toml
