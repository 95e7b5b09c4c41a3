import KernelForge.Toml.Value

/-!
Contract: which keys and headings a TOML table still accepts.

Owns: following a path of keys into nested tables, adding an entry under a dotted
key, and opening a table or an element of an array of tables by a heading.

A table defined by a heading or in braces cannot be extended by a dotted key, one
made by dotted keys cannot be reopened by a heading, a table in braces cannot be
entered at all, and of an array of tables the last element is entered.

Does not own: where keys and headings come from; that is
`KernelForge.Toml.Document`.
-/

namespace KernelForge.Toml

/-- Entries with the value of a key that is there replaced. -/
def replaceEntry (key : String) (value : Value) : Entries → Entries
  | [] => []
  | (otherKey, otherValue) :: rest =>
      if otherKey = key then (key, value) :: rest
      else (otherKey, otherValue) :: replaceEntry key value rest

/-- Entries with a new key; a key that is there is refused. -/
def addEntry (key : String) (value : Value) (entries : Entries) : Option Entries :=
  match entries.lookup key with
  | some _ => none
  | none => some (entries ++ [(key, value)])

/-- Changes the table at the end of a path. Missing tables on the way are made;
`dotted` says whether a dotted key or a heading asks for them. -/
def updateAt (dotted : Bool) (update : TableOrigin → Entries → Option Entries) :
    List String → TableOrigin → Entries → Option Entries
  | [], origin, entries => update origin entries
  | key :: path, _, entries =>
      match entries.lookup key with
      | none =>
          let origin := if dotted then .dotted else .passedThrough
          (updateAt dotted update path origin []).map fun inner =>
            entries ++ [(key, .table origin inner)]
      | some (.table origin inner) =>
          if origin = .braces ∨ (dotted ∧ origin = .heading) then none
          else
            (updateAt dotted update path origin inner).map fun changed =>
              replaceEntry key (.table origin changed) entries
      | some (.tables elements) =>
          match elements.getLast? with
          | none => none
          | some last =>
              (updateAt dotted update path .heading last).map fun changed =>
                replaceEntry key (.tables (elements.dropLast ++ [changed])) entries
      | some _ => none

/-- Adds a value under a dotted key of a table with an origin. The table that
receives it must be the table itself for a plain key, and one made by dotted keys
otherwise. -/
def addDotted (path : List String) (key : String) (value : Value) (origin : TableOrigin)
    (entries : Entries) : Option Entries :=
  updateAt true
    (fun receiver present =>
      if (receiver == .dotted) == path.isEmpty then none else addEntry key value present)
    path origin entries

/-- Opens a table by a heading: it must be new, or so far only passed through. -/
def openTable (path : List String) (key : String) (root : Entries) : Option Entries :=
  updateAt false
    (fun _ present =>
      match present.lookup key with
      | none => some (present ++ [(key, .table .heading [])])
      | some (.table .passedThrough inner) =>
          some (replaceEntry key (.table .heading inner) present)
      | some _ => none)
    path .heading root

/-- Opens the next element of an array of tables by a heading. -/
def openElement (path : List String) (key : String) (root : Entries) : Option Entries :=
  updateAt false
    (fun _ present =>
      match present.lookup key with
      | none => some (present ++ [(key, .tables [[]])])
      | some (.tables elements) => some (replaceEntry key (.tables (elements ++ [[]])) present)
      | some _ => none)
    path .heading root

/-- Adds a value under a dotted key of the table that the last heading opened. -/
def addUnder (heading path : List String) (key : String) (value : Value) (root : Entries) :
    Option Entries :=
  updateAt false (addDotted path key value) heading .heading root

end KernelForge.Toml
