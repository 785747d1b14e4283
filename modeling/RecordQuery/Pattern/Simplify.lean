import RecordQuery.Pattern.Regex

/-!
# Simple forms

Expressions are put together by functions that simplify on the way: what matches stays the same,
and the machine that searches for it becomes smaller.

* `ofSet` — a set of characters, as a text where it has one character;
* `concatOf` — parts one behind the other, without empty ones, neighbouring texts joined;
* `eitherOf` — branches, as one set where all of them are characters, and with what all of them
  start with taken out;
* `repeated` — a repetition, unless it is none.
-/

namespace RecordQuery.Pattern.Regex

/-- Code points that are halves of a character. -/
def halves : CodePointSet := .range 0xD800 0xDFFF

/-- A single character of a set. -/
def ofSet (s : CodePointSet) : Regex :=
  match s.diff halves with
  | ⟨[(first, last)]⟩ =>
    if first = last then literal [Char.ofNat first] else chars (.range first last)
  | set => chars set

/-! ## One behind the other -/

/-- Opens sequences inside of a sequence and leaves out what is empty. -/
def flattenParts : List Regex → List Regex
  | [] => []
  | empty :: rest => flattenParts rest
  | concat parts :: rest => parts ++ flattenParts rest
  | r :: rest => r :: flattenParts rest

/-- Puts a part in front of others and joins neighbouring texts. -/
def attachPart : Regex → List Regex → List Regex
  | literal cs, literal cs' :: rest => literal (cs ++ cs') :: rest
  | r, rest => r :: rest

/-- Some expressions one behind the other. -/
def concatOf (parts : List Regex) : Regex :=
  match (flattenParts parts).foldr attachPart [] with
  | [] => empty
  | [r] => r
  | parts => concat parts

/-! ## One of some -/

mutual

/-- Whether two expressions are alike.  Matches that are remembered are told apart. -/
def isAlike : Regex → Regex → Bool
  | empty, empty => true
  | literal cs, literal cs' => cs == cs'
  | chars s, chars s' => s == s'
  | look l, look l' => l == l'
  | concat rs, concat rs' => areAlike rs rs'
  | either rs, either rs' => areAlike rs rs'
  | repetition r least most greedy, repetition r' least' most' greedy' =>
    least == least' && most == most' && greedy == greedy' && isAlike r r'
  | _, _ => false

/-- Whether the expressions of two lists are alike. -/
def areAlike : List Regex → List Regex → Bool
  | [], [] => true
  | r :: rs, r' :: rs' => isAlike r r' && areAlike rs rs'
  | _, _ => false

end

/-- The longest common start of two lists. -/
def commonStart : List Regex → List Regex → List Regex
  | r :: rs, r' :: rs' => if isAlike r r' then r :: commonStart rs rs' else []
  | _, _ => []

/-- The parts of a sequence. -/
def parts? : Regex → Option (List Regex)
  | concat parts => some parts
  | _ => none

/-- The parts that all branches start with, if all of them are sequences. -/
def commonParts (branches : List Regex) : List Regex :=
  match branches.mapM parts? with
  | some (parts :: others) => others.foldl commonStart parts
  | _ => []

/-- A branch without its first parts. -/
def dropParts (n : Nat) (r : Regex) : Regex := concatOf (((parts? r).getD []).drop n)

/-- The set of a text of one character. -/
def charOf? : Regex → Option CodePointSet
  | literal [c] => some (.singleton c.toNat)
  | _ => none

/-- The set of an expression that is one. -/
def setOf? : Regex → Option CodePointSet
  | chars s => some s
  | _ => none

/-- Branches as one set, if all of them are single characters or all of them are sets. -/
def mergedSet? (branches : List Regex) : Option CodePointSet :=
  (branches.mapM charOf? <|> branches.mapM setOf?).map .unions

/-- Opens branches inside of branches. -/
def flattenBranches : List Regex → List Regex
  | [] => []
  | either branches :: rest => branches ++ flattenBranches rest
  | r :: rest => r :: flattenBranches rest

/-- One of some expressions, where `split` takes care of branches that are no set. -/
def eitherWith (split : List Regex → Regex) (branches : List Regex) : Regex :=
  match flattenBranches branches with
  | [] => chars .empty
  | [r] => r
  | branches =>
    match mergedSet? branches with
    | some s => ofSet s
    | none => split branches

/-- One of some expressions: what all of them start with stands in front. -/
def eitherOf (branches : List Regex) : Regex :=
  eitherWith (fun branches =>
    match commonParts branches with
    | [] => either branches
    | parts =>
      concatOf (parts ++ [eitherWith either (branches.map (dropParts parts.length))])) branches

/-! ## Over and over -/

mutual

/-- Whether an expression matches nothing but the empty text. -/
def isEmptyOnly : Regex → Bool
  | empty | look _ => true
  | literal _ | chars _ => false
  | concat parts => areEmptyOnly parts
  | either branches => areEmptyOnly branches
  | repetition body _ _ _ => isEmptyOnly body
  | capture body => isEmptyOnly body

/-- Whether some expressions match nothing but the empty text. -/
def areEmptyOnly : List Regex → Bool
  | [] => true
  | r :: rest => isEmptyOnly r && areEmptyOnly rest

end

/-- An expression over and over.  The empty text need not be repeated. -/
def repeated (body : Regex) (least : Nat) (most : Option Nat) (greedy : Bool) : Regex :=
  let least := if isEmptyOnly body then min least 1 else least
  let most := if isEmptyOnly body then some (min (most.getD 1) 1) else most
  match least, most with
  | 0, some 0 => empty
  | 1, some 1 => body
  | _, _ => repetition body least most greedy

end RecordQuery.Pattern.Regex
