/-!
# Records as text

A record is a title with named fields whose values are texts already. It is written on one line or
as a block with a line for each field. As a JSON object, without its title, it is written without
blanks, or indented as a part of a larger object at a given depth.
-/
namespace TimedCache

structure Record where
  title : String
  fields : List (String × String)
  /-- Whether there is more than the fields show. -/
  more : Bool
  deriving DecidableEq

namespace Record

/-- The fields as `name: value`, with two dots at the end if there is more. -/
def items (r : Record) : List String :=
  r.fields.map (fun f => f.1 ++ ": " ++ f.2) ++ if r.more then [".."] else []

def line (r : Record) : String := r.title ++ " \x7b " ++ ", ".intercalate r.items ++ " \x7d"

/-- Each field on a line of its own. A comma ends each field, also the last, but not the dots. -/
def block (r : Record) : String :=
  r.title ++ " \x7b\n"
    ++ String.join (r.fields.map fun f => "    " ++ f.1 ++ ": " ++ f.2 ++ ",\n")
    ++ (if r.more then "    ..\n" else "") ++ "\x7d"

def json (r : Record) : String :=
  "\x7b" ++ ",".intercalate (r.fields.map fun f => "\"" ++ f.1 ++ "\":" ++ f.2) ++ "\x7d"

/-- A JSON object with a field on each line, in which fields stand two blanks further to the right
than the object does. -/
def indentedJson (r : Record) (depth : Nat) : String :=
  let line (f : String × String) : String :=
    "\n" ++ String.ofList (List.replicate (2 * depth + 2) ' ') ++ "\"" ++ f.1 ++ "\": " ++ f.2
  "\x7b" ++ ",".intercalate (r.fields.map line) ++ "\n"
    ++ String.ofList (List.replicate (2 * depth) ' ') ++ "\x7d"

end Record
end TimedCache
