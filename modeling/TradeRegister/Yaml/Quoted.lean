import TradeRegister.Hexadecimal
import TradeRegister.Yaml.Gap

/-! # Quoted scalars

Single quotes are doubled inside; double quotes have escapes, and an escaped line break joins two
lines. No document starts or ends inside.
-/

namespace TradeRegister.Yaml.Quoted

open Glyph (isDocumentMark)

def follow (gap : Gap) (c : List Char) :
    Option (List Char × List Glyph) → Option (List Char × List Glyph) :=
  Option.map fun (s, rest) => (gap.text ++ c ++ s, rest)

/-- The text after `gap` up to the closing quote, and what follows the quote. -/
def single? (gap : Gap) : List Glyph → Option (List Char × List Glyph)
  | [] => none
  | g :: rest =>
    if isGap g.char then single? (gap.push g.char) rest
    else if isDocumentMark (g :: rest) then none
    else if g.char != '\'' then follow gap [g.char] (single? .empty rest)
    else
      match rest with
      | [] => some (gap.text, [])
      | q :: after =>
        if q.char == '\'' then follow gap ['\''] (single? .empty after) else some (gap.text, q :: after)

def simpleEscape? : Char → Option Char
  | '0' => some '\x00'
  | 'a' => some '\x07'
  | 'b' => some '\x08'
  | 't' => some '\t'
  | '\t' => some '\t'
  | 'n' => some '\n'
  | 'v' => some '\x0b'
  | 'f' => some '\x0c'
  | 'r' => some '\r'
  | 'e' => some '\x1b'
  | ' ' => some ' '
  | '"' => some '"'
  | '/' => some '/'
  | '\\' => some '\\'
  | 'N' => some '\u0085'
  | '_' => some '\u00a0'
  | 'L' => some '\u2028'
  | 'P' => some '\u2029'
  | _ => none

def codeLength? : Char → Option Nat
  | 'x' => some 2
  | 'u' => some 4
  | 'U' => some 8
  | _ => none

/-- The character that an escape denotes, from what follows the backslash. -/
def escaped? : List Glyph → Option Char
  | [] => none
  | e :: rest =>
    match codeLength? e.char with
    | some n =>
      if n ≤ rest.length then Hexadecimal.char? (Glyph.chars (rest.take n)) else none
    | none => simpleEscape? e.char

/-- The text after `gap` up to the closing quote, and what follows the quote; `skip` characters in
front belong to an escape before. -/
def double? : Nat → Gap → List Glyph → Option (List Char × List Glyph)
  | _, _, [] => none
  | skip + 1, gap, _ :: rest => double? skip gap rest
  | 0, gap, g :: rest =>
    if isGap g.char then double? 0 (gap.push g.char) rest
    else if isDocumentMark (g :: rest) then none
    else if g.char == '"' then some (gap.text, rest)
    else if g.char != '\\' then follow gap [g.char] (double? 0 .empty rest)
    else
      match rest with
      | [] => none
      | e :: rest =>
        if isBreak e.char then follow gap [] (double? 0 (.breaks none []) rest)
        else
          match escaped? (e :: rest) with
          | some c => follow gap [c] (double? ((codeLength? e.char).getD 0) .empty rest)
          | none => none

def read? (quote : Char) (gs : List Glyph) : Option (List Char × List Glyph) :=
  if quote == '"' then double? 0 .empty gs else single? .empty gs

end TradeRegister.Yaml.Quoted
