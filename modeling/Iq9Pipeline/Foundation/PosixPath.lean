import Mathlib.Data.List.Basic

/-!
Paths as `std::filesystem` reads them where `/` separates: how two are joined, the directory
of one, and the form without `.` and without names that a `..` takes back.
-/

namespace Foundation.PosixPath

def join (base value : List Char) : List Char :=
  if value.head? = some '/' then value
  else if base = [] ∨ base.getLast? = some '/' then base ++ value
  else base ++ '/' :: value

def push (rooted : Bool) (names : List (List Char)) (piece : List Char) : List (List Char) :=
  if piece = [] ∨ piece = ['.'] then names
  else if piece = ['.', '.'] then
    match names with
    | [] => if rooted then [] else [piece]
    | last :: rest => if last = ['.', '.'] then piece :: names else rest
  else piece :: names

def normalText (path : List Char) : List Char :=
  let pieces := path.splitOn '/'
  let rooted := path.head? = some '/'
  let names := pieces.foldl (push rooted) []
  let closed := pieces.getLast? = some [] ∨ pieces.getLast? = some ['.'] ∨
    pieces.getLast? = some ['.', '.']
  let separator := if closed ∧ names ≠ [] ∧ names.head? ≠ some ['.', '.'] then ['/'] else []
  (if rooted then ['/'] else []) ++ ['/'].intercalate names.reverse ++ separator

def lexicallyNormal (path : List Char) : List Char :=
  if path = [] then []
  else if normalText path = [] then ['.']
  else normalText path

def parentPath (path : List Char) : List Char :=
  if path.all (· = '/') then path
  else
    let before := path.reverse.dropWhile (· ≠ '/')
    let directory := before.dropWhile (· = '/')
    if directory = [] then (if before = [] then [] else ['/']) else directory.reverse

theorem lexicallyNormal_ne_nil {path : List Char} (nonempty : path ≠ []) :
    lexicallyNormal path ≠ [] := by
  rw [lexicallyNormal, if_neg nonempty]
  split
  · exact List.cons_ne_nil _ _
  · assumption

theorem join_ne_nil (base : List Char) {value : List Char} (nonempty : value ≠ []) :
    join base value ≠ [] := by
  rw [join]
  split
  · exact nonempty
  split
  · exact List.append_ne_nil_of_right_ne_nil _ nonempty
  · simp

example : lexicallyNormal "/a/./b//../c/..".toList = "/a/".toList := by decide

example : lexicallyNormal "../x/../..".toList = "../..".toList := by decide

example : parentPath "config/app.json".toList = "config".toList := by decide

end Foundation.PosixPath
