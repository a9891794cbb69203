namespace BuildHook

/-- The thirty-two hexadecimal digits, in small letters. -/
structure Uuid where
  digits : List Char
  length_digits : digits.length = 32
  deriving DecidableEq

namespace Uuid

def isHexDigit (c : Char) : Bool :=
  c.isDigit || ('a' ≤ c && c ≤ 'f') || ('A' ≤ c && c ≤ 'F')

def ofDigits? (digits : List Char) : Option Uuid :=
  if h : digits.length = 32 then
    if digits.all isHexDigit then some ⟨digits.map Char.toLower, by rw [List.length_map, h]⟩
    else none
  else none

def ofGroups? (cs : List Char) : Option Uuid :=
  if cs.length = 36 ∧ [8, 13, 18, 23].all (fun i ↦ cs[i]? = some '-') then
    ofDigits? (cs.take 8 ++ (cs.drop 9).take 4 ++ (cs.drop 14).take 4 ++ (cs.drop 19).take 4 ++
      cs.drop 24)
  else none

/-- Takes the digits alone, in groups, in groups and braces, or as a resource name. -/
def parse? (s : String) : Option Uuid :=
  let cs := s.toList
  if cs.length = 32 then ofDigits? cs
  else if cs.length = 38 ∧ cs.head? = some '\x7b' ∧ cs.getLast? = some '\x7d' then
    ofGroups? ((cs.drop 1).take 36)
  else if cs.length = 45 ∧ cs.take 9 = "urn:uuid:".toList then ofGroups? (cs.drop 9)
  else ofGroups? cs

def text (u : Uuid) : String :=
  "-".intercalate <| [u.digits.take 8, (u.digits.drop 8).take 4, (u.digits.drop 12).take 4,
    (u.digits.drop 16).take 4, u.digits.drop 20].map String.ofList

end Uuid

end BuildHook
