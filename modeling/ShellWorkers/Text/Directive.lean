import ShellWorkers.Decimal
import ShellWorkers.Text.Utf8

/-!
# Directives of a format

A directive says how a value is written: flags, the least width, a precision, and the conversion.
Texts, characters, whole numbers and numbers with a point have their ways to be written.
-/

namespace ShellWorkers.Text

open ShellWorkers.Decimal

structure Directive where
  /-- the blanks stand behind the value -/
  left : Bool
  /-- a positive number has a sign, or a blank in its place -/
  plus : Bool
  space : Bool
  /-- the base is told, and the point stands even if nothing is behind it -/
  alternate : Bool
  /-- zeros take the place of blanks before a number -/
  zeros : Bool
  width : Nat
  precision : Option Nat
  conversion : Char
  deriving Repr

namespace Directive

/-- a directive with nothing but a conversion -/
def plain (conversion : Char) : Directive :=
  ⟨false, false, false, false, false, 0, none, conversion⟩

/-- blanks around a text -/
def pad (d : Directive) (cs : List Char) : List Char :=
  let fill := List.replicate (d.width - cs.length) ' '
  if d.left then cs ++ fill else fill ++ cs

/-- a text, cut to the precision -/
def text (d : Directive) (cs : List Char) : List Char :=
  d.pad (match d.precision with
    | some n => cs.take n
    | none => cs)

/-- what stands before the digits of a number -/
def signOf (d : Directive) (negative : Bool) : List Char :=
  if negative then ['-'] else if d.plus then ['+'] else if d.space then [' '] else []

/-- what stands before the digits, the digits, and zeros or blanks to fill the width -/
def padNumber (d : Directive) (zeros : Bool) (before digits : List Char) : List Char :=
  if zeros && !d.left then
    before ++ List.replicate (d.width - (before.length + digits.length)) '0' ++ digits
  else d.pad (before ++ digits)

/-- a whole number in a base; `before` stands before its digits -/
def wholeIn (d : Directive) (base : Nat) (upper : Bool) (before : List Char) (n : Nat) :
    List Char :=
  let ds := Nat.toDigits base n
  let ds := if upper then ds.map Char.toUpper else ds
  let ds := match d.precision with
    | some 0 => if n = 0 then [] else ds
    | some p => List.replicate (p - ds.length) '0' ++ ds
    | none => ds
  let ds := if d.alternate && base == 8 && ds.head? != some '0' then '0' :: ds else ds
  d.padNumber (d.zeros && d.precision.isNone) before ds

/-- a whole number with its sign -/
def integer (d : Directive) (n : Int) : List Char :=
  d.wholeIn 10 false (d.signOf (decide (n < 0))) n.natAbs

/-- a whole number without sign, by the conversion -/
def natural (d : Directive) (n : Nat) : List Char :=
  match d.conversion with
  | 'o' => d.wholeIn 8 false [] n
  | 'x' => d.wholeIn 16 false (if d.alternate && n != 0 then ['0', 'x'] else []) n
  | 'X' => d.wholeIn 16 true (if d.alternate && n != 0 then ['0', 'X'] else []) n
  | _ => d.wholeIn 10 false [] n

/-- a number with a point, by the conversion; `p` tells how much of it stands before the point in
base 16 -/
def floating (d : Directive) (p : Floating.Precision) (x : Floating) : List Char :=
  let sign := d.signOf x.negative
  let places := d.precision.getD 6
  let upper := d.conversion.isUpper
  let raise (cs : List Char) : List Char := if upper then cs.map Char.toUpper else cs
  match x.magnitude with
  | .infinite => d.pad (sign ++ raise "inf".toList)
  | .notNumber => d.pad (sign ++ raise "nan".toList)
  | .finite m e =>
    match d.conversion.toLower with
    | 'e' => d.padNumber d.zeros sign (raise (Floating.scientific places d.alternate m e))
    | 'g' => d.padNumber d.zeros sign (raise (Floating.general places d.alternate m e))
    | 'a' =>
      let lead := if p.bits = 64 then 4 else 1
      let cs := raise (Floating.hexadecimal lead p.bits d.precision d.alternate m e)
      d.padNumber d.zeros (sign ++ cs.take 2) (cs.drop 2)
    | _ => d.padNumber d.zeros sign (raise (Floating.fixed places d.alternate m e))

end Directive

end ShellWorkers.Text
