import LineShell.Machine.Script.Builtin.Basic
import LineShell.Machine.Script.Options
/-!
# Commands for what a process is allowed

The permissions that new files do not get are given in octal digits, or by letters: whose
permissions, an operator, and which permissions.
-/

namespace LineShell.Script.Builtin

private def allBits : Nat := 0o777

private def without (bits taken : Nat) : Nat := bits - (bits &&& taken)

/-- The permissions that some users are granted, as letters. -/
private def lettersOf (bits : Nat) : Bytes :=
  [(4, 114), (2, 119), (1, 120)].filterMap fun (bit, letter) =>
    if bits &&& bit = 0 then none else some letter

/-- A change of permissions as it is being read. -/
private structure Change where
  rest : Bytes
  bits : Nat
  /-- Whose permissions change, as the last of the three bits of each. -/
  whose : Nat

private def whose? : UInt8 → Option Nat
  | 97 => some 0o111
  | 117 => some 0o100
  | 103 => some 0o010
  | 111 => some 0o001
  | _ => none

/-- What a letter grants, given the permissions before all changes. -/
private def granted? (before : Nat) : UInt8 → Option Nat
  | 114 => some 4
  | 119 => some 2
  | 120 => some 1
  | 117 => some (before / 64)
  | 103 => some (before / 8)
  | 111 => some before
  | 88 => some (if before &&& 0o111 = 0 then 0 else 1)
  | 115 => some 0
  | _ => none

/-- Changes permissions as a text asks for, up to something that it cannot ask for. -/
private def change (before : Nat) : Nat → Change → Change
  | 0, found => found
  | steps + 1, found =>
    let who := found.rest.takeWhile fun letter => (whose? letter).isSome
    let rest := found.rest.dropWhile fun letter => (whose? letter).isSome
    let whose := (who.filterMap whose?).foldl (· ||| ·) found.whose
    let whose := if whose = 0 then 0o111 else whose
    match rest with
    | operator :: rest =>
      if !([43, 45, 61].contains operator) then { found with rest := operator :: rest, whose }
      else
        let letters := rest.takeWhile fun letter => (granted? before letter).isSome
        let rest := rest.dropWhile fun letter => (granted? before letter).isSome
        let value := ((letters.filterMap (granted? before)).foldl (· ||| ·) 0 &&& 7) * whose
        let bits :=
          if operator = 45 then without found.bits value
          else if operator = 61 then without found.bits (whose * 7) ||| value
          else found.bits ||| value
        match rest with
        | 44 :: rest => if rest.isEmpty then ⟨[], bits, 0⟩ else change before steps ⟨rest, bits, 0⟩
        | next :: _ =>
          if [43, 45, 61].contains next then change before steps ⟨rest, bits, whose⟩
          else ⟨rest, bits, whose⟩
        | [] => ⟨[], bits, whose⟩
    | [] => { found with rest := [], whose }

/-- Shows or changes the permissions that new files do not get. -/
def umask : Builtin := fun arguments => do
  let (given, arguments) ← Options.read "S" arguments
  let mask := (← get).process.mask
  let bits := allBits - mask
  match arguments with
  | [] =>
    if given.isEmpty then
      put ([48, (48 + mask / 64).toUInt8, (48 + mask / 8 % 8).toUInt8, (48 + mask % 8).toUInt8, 10])
    else
      put (str "u=" ++ lettersOf (bits / 64) ++ str ",g=" ++ lettersOf (bits / 8) ++ str ",o=" ++
        lettersOf bits ++ [10])
  | text :: _ =>
    let setMask (mask : Nat) : Run Unit :=
      modify fun state => { state with process := { state.process with mask } }
    if (text.head?.map isDigit).getD false then
      match Numeral.unsigned .octal text with
      | some (mask, []) => setMask (mask &&& allBits)
      | _ => fail (str "Illegal number: " ++ text)
    else
      let changed := change bits (text.length + 1) ⟨text, bits, 0⟩
      if changed.rest.isEmpty then setMask (allBits - (changed.bits &&& allBits))
      else fail (str "Illegal mode: " ++ text)
    return 0

/-- Shows how much time has been used. No time passes on the machine. -/
def times : Builtin := fun _ =>
  put (str "0m0.000000s 0m0.000000s\n0m0.000000s 0m0.000000s\n")

/-- Shows limits. Nothing is limited, and limits are not kept. -/
def ulimit : Builtin := fun arguments => do
  let (_, arguments) ← Options.read "HSatfdscmlpnvwr" arguments
  if arguments.isEmpty then put (str "unlimited\n") else return 0

end LineShell.Script.Builtin
