import WindowQuery.Text.CaseTable

/-!
# Letter case

`lower` and `upper` map a text character by character with the full Unicode mappings, so that one
character may become several. The one rule that looks at neighbours is the Greek sigma, whose
lower case at the end of a word has a form of its own.
-/

namespace WindowQuery.Text

/-- Membership in a table of inclusive ranges of codes. -/
def inRanges (table : Array (Nat × Nat)) (c : Char) : Bool :=
  table.any fun (first, last) => decide (first ≤ c.toNat ∧ c.toNat ≤ last)

/-- What a table of runs and expansions makes of one character. -/
def mapped (runs : Array (Nat × Nat × Nat × Int)) (expansions : Array (Nat × List Nat))
    (c : Char) : List Char :=
  let code := c.toNat
  match expansions.find? fun (source, _) => source == code with
  | some (_, codes) => codes.map Char.ofNat
  | none =>
    match runs.find? fun (first, last, step, _) =>
        decide (first ≤ code ∧ code ≤ last ∧ (code - first) % step = 0) with
    | some (_, _, _, shift) => [Char.ofNat (code + shift).toNat]
    | none => [c]

/-- The lower case of a character by itself. ASCII needs no table. -/
def lowerChar (c : Char) : List Char :=
  if c.toNat < 128 then [c.toLower] else mapped CaseTable.lowerRuns CaseTable.lowerExpansions c

/-- The upper case of a character. ASCII needs no table. -/
def upperChar (c : Char) : List Char :=
  if c.toNat < 128 then [c.toUpper] else mapped CaseTable.upperRuns CaseTable.upperExpansions c

/-- Whether the first character that counts for case is a cased one. -/
def meetsCased (cs : List Char) : Bool :=
  match cs.dropWhile (inRanges CaseTable.caseIgnorable) with
  | [] => false
  | c :: _ => inRanges CaseTable.cased c

/-- Lower case of what follows `before`, which is held last character first. A capital sigma is
final when a cased character comes before it in its word and none after. -/
def lowerAfter (before : List Char) : List Char → List Char
  | [] => []
  | c :: rest =>
    (if c = 'Σ' then [if meetsCased before && !meetsCased rest then 'ς' else 'σ']
      else lowerChar c) ++ lowerAfter (c :: before) rest

/-- A text in lower case. -/
def lower (s : String) : String := String.ofList (lowerAfter [] s.toList)

/-- A text in upper case. -/
def upper (s : String) : String := String.ofList (s.toList.flatMap upperChar)

end WindowQuery.Text
