import CommandLink.Text.CaseData

/-!
# Lower case

Host names are compared without regard to case, so an address keeps its host
in lower case. The mapping is the full one: one letter may become two, and a
capital sigma becomes the final form at the end of a word.
-/

namespace CommandLink.Text

/-- A letter's own lower case, whatever stands around it. -/
def lowerChar (c : Char) : List Char :=
  if c = 'İ' then ['i', '\u0307']
  else
    match caseRuns.findSome? (·.lower? c.toNat) with
    | some code => [Char.ofNat code]
    | none => [c]

/-- Whether the nearest character that case rules do not pass over has case. -/
def meetsCased (chars : List Char) : Bool :=
  match chars.dropWhile (fun c => inRanges caseIgnorableRanges c.toNat) with
  | [] => false
  | c :: _ => inRanges casedRanges c.toNat

/-- A sigma ends a word when a cased letter comes before it and none after. -/
def endsWord (before after : List Char) : Bool :=
  meetsCased before && !meetsCased after

/-- Lower case of the rest of a text, given what came before it, last
character first. -/
def lowerAfter (before : List Char) : List Char → List Char
  | [] => []
  | c :: after =>
    (if c = 'Σ' then [if endsWord before after then 'ς' else 'σ'] else lowerChar c)
      ++ lowerAfter (c :: before) after

/-- A text in lower case. -/
def lowercase (text : String) : String :=
  String.ofList (lowerAfter [] text.toList)

end CommandLink.Text
