import Stencil.Binary64.Basic
import Stencil.OrderedMap

/-! Values of TOML documents.

* `Toml`: scalars, arrays and tables. The entries of a table keep the order of the document.
* `Toml.alter?`: changes the table that a path of keys leads to, and makes the tables on the way. -/

namespace Stencil
set_option autoImplicit false

/-- How a table came about, which decides how it may be extended. -/
inductive TableForm where
  /-- Written between braces. Nothing can be added. -/
  | inline
  /-- Opened by a header of its own. -/
  | header
  /-- Made on the way to a table with a header. It can be given its own header later. -/
  | implied
  /-- Made by a dotted key. -/
  | dotted
deriving DecidableEq, Repr

/-- A value of a TOML document. -/
inductive Toml where
  | text (value : String)
  | integer (value : Int)
  | float (value : Binary64)
  | bool (value : Bool)
  /-- A date, a time or both, as written. -/
  | dateTime (written : String)
  | array (items : List Toml)
  | table (form : TableForm) (entries : List (String × Toml))
  /-- Tables that headers in double brackets open one after the other. -/
  | tables (items : List (List (String × Toml)))
deriving Inhabited

namespace Toml

/-- The entries of a table. -/
abbrev Entries := OrderedMap Toml

/-- Changes the last of several tables. -/
def alterLast? (f : Entries → Option Entries) : List Entries → Option (List Entries)
  | [] => none
  | [last] => (f last).map ([·])
  | first :: rest => (alterLast? f rest).map (first :: ·)

/-- Changes the table that the path leads to. A table that is not there is made, as implied or, for a
dotted key, as dotted. A dotted key leads through no table that has a header, and nothing leads
through a table in braces. -/
def alter? (isDotted : Bool) (f : TableForm → Entries → Option Entries) :
    List String → TableForm → Entries → Option Entries
  | [], form, entries => f form entries
  | key :: path, _, entries =>
    match entries.get? key with
    | none => do
      let form := if isDotted then TableForm.dotted else TableForm.implied
      return entries ++ [(key, .table form (← alter? isDotted f path form []))]
    | some (.table form inner) =>
      if form == .inline || isDotted && form == .header then none
      else (alter? isDotted f path form inner).map fun inner => entries.insert key (.table form inner)
    | some (.tables items) =>
      (alterLast? (alter? isDotted f path .header) items).map fun items =>
        entries.insert key (.tables items)
    | some _ => none

/-- Adds an entry under a dotted key. A key is given once, and keys of a table with a header and
dotted keys do not mix. -/
def addEntry? (path : List String) (key : String) (value : Toml) (form : TableForm)
    (entries : Entries) : Option Entries :=
  alter? true (fun target found =>
    if (target == .dotted) == path.isEmpty || (found.get? key).isSome then none
    else some (found ++ [(key, value)])) path form entries

end Toml

end Stencil
