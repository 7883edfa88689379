import LineShell.Machine.Script.Command
import LineShell.Machine.Tree
/-!
# Home directories in words

A tilde at the start of a word, up to a slash, stands for a home directory: that of the user whose
name follows it, or that of the script if none does. In the value of a variable a tilde behind a
colon does so too. The path that takes its place is quoted.
-/

namespace LineShell.Script.Tilde

/-- The home directory of a user, by the machine's list of users. -/
private def homeOf? (tree : Tree) (user : Bytes) : Option Bytes :=
  match tree.resolve 0 (Bytes.ofString "/etc/passwd") true with
  | .error _ => none
  | .ok node =>
    match tree.node node with
    | .file _ content =>
      let entries := (Bytes.splitOn 10 content.toList).map (Bytes.splitOn 58)
      (entries.find? fun fields => fields.head? == some user).bind fun fields => fields[5]?
    | _ => none

/-- The home directory that a name behind a tilde stands for, given that of the script. -/
def home? (tree : Tree) (own : Option Bytes) (name : Bytes) : Option Bytes :=
  if name.isEmpty then own else homeOf? tree name

/-- Where tildes stand for home directories: nowhere, at the start of a word, or behind colons
too. -/
inductive Scope where
  | nowhere
  | word
  | value
  deriving DecidableEq

/-- A home directory in the place of a tilde at the start of a text, and what follows. `final` tells
whether the word ends with the text. -/
private def atStart (scope : Scope) (home? : Bytes → Option Bytes) (final : Bool) (text : Bytes) :
    Option (Bytes × Bytes) :=
  let goesOn (byte : UInt8) : Bool := byte != 47 && !(scope == .value && byte == 58)
  match text with
  | 126 :: rest =>
    let after := rest.dropWhile goesOn
    if after.isEmpty && !final then none
    else (home? (rest.takeWhile goesOn)).map fun home => (home, after)
  | _ => none

private def piecesUpTo (scope : Scope) (home? : Bytes → Option Bytes) (final : Bool) :
    Nat → Bool → Bytes → List (Bytes × Bool)
  | 0, _, text => [(text, false)]
  | steps + 1, start, text =>
    if text.isEmpty then []
    else match if start then atStart scope home? final text else none with
      | some (home, after) => (home, true) :: piecesUpTo scope home? final steps false after
      | none =>
        match if scope = .value then Bytes.cutAt 58 text else none with
        | none => [(text, false)]
        | some (piece, rest) =>
          (piece ++ [58], false) :: piecesUpTo scope home? final steps true rest

/-- An unquoted text of a word in pieces, with home directories in the place of tildes. A flag tells
which pieces those are. `start` and `final` tell whether the word starts and ends with the text. -/
def pieces (scope : Scope) (home? : Bytes → Option Bytes) (start final : Bool) (text : Bytes) :
    List (Bytes × Bool) :=
  if scope = .nowhere then [(text, false)]
  else piecesUpTo scope home? final (text.length + 1) start text

end LineShell.Script.Tilde
