import Tablewright.Naming.Lexicon
import Tablewright.Naming.Plural
import Tablewright.Text.Blank

/-!
# Singular and plural by the lexicon

The number of an English noun, from lists of exceptions and families of endings. Rules are tried in
order, and the first one that applies gives the form. A word to which no singular rule applies is a
singular already; a word to which no plural rule applies adds an `s`.
-/

namespace Tablewright.Naming

/-- A rule for a family of words: those listed and those with a listed ending lose the last `drop`
characters and gain `add`. -/
structure EndingRule where
  words : List String
  endings : List String
  drop : Nat
  add : String
  deriving Repr, DecidableEq

/-- A word with its last characters replaced. -/
def replaceEnd
    (drop : Nat)
    (add : String)
    (word : List Char) : List Char :=
  word.take (word.length - drop) ++ add.toList

/-- Whether the word ends in the text. -/
def hasEnding
    (word : List Char)
    (ending : String) : Bool :=
  ending.toList.isSuffixOf word

/-- The last of the words that blanks separate. -/
def lastWord
    (word : List Char) : List Char :=
  (word.reverse.takeWhile fun c => !Text.isBlank c).reverse

/-- Whether the last word is listed. -/
def isListed
    (words : List String)
    (word : List Char) : Bool :=
  words.contains (String.ofList (lastWord word))

/-- The form that the rule gives, if it applies. -/
def EndingRule.apply?
    (rule : EndingRule)
    (word : List Char) : Option (List Char) :=
  if isListed rule.words word || rule.endings.any (hasEnding word) then
    some (replaceEnd rule.drop rule.add word)
  else
    none

/-- A rule for whole words. -/
def forWords
    (words : List String)
    (drop : Nat)
    (add : String) : List Char → Option (List Char) :=
  EndingRule.apply? ⟨words, [], drop, add⟩

/-- A rule for endings. -/
def forEndings
    (endings : List String)
    (drop : Nat)
    (add : String) : List Char → Option (List Char) :=
  EndingRule.apply? ⟨[], endings, drop, add⟩

/-- The form that the rule gives if the condition holds of the word. -/
def onlyIf
    (condition : List Char → Bool)
    (rule : List Char → Option (List Char))
    (word : List Char) : Option (List Char) :=
  if condition word then rule word else none

/-- The last word replaced by its partner in a list of pairs. -/
def forPairs
    (pairs : List (String × String))
    (word : List Char) : Option (List Char) :=
  let last := lastWord word
  (pairs.lookup (String.ofList last)).map fun partner => replaceEnd last.length partner word

/-- The whole word replaced by its partner in a list of pairs. -/
def forWholePairs
    (pairs : List (String × String))
    (word : List Char) : Option (List Char) :=
  (pairs.lookup (String.ofList word)).map String.toList

/-- Endings made of the words of a list by replacing their own ends. -/
def endingsOf
    (drop : Nat)
    (add : String)
    (words : List String) : List String :=
  words.map fun word => String.ofList (replaceEnd drop add word.toList)

/-- The character at a place counted from the end, the last character being at place zero. -/
def fromEnd?
    (word : List Char)
    (place : Nat) : Option Char :=
  word.reverse[place]?

/-- Whether a vowel stands at a place counted from the end. -/
def vowelAt
    (place : Nat)
    (word : List Char) : Bool :=
  match fromEnd? word place with
  | some c => ['a', 'e', 'i', 'o', 'u'].contains c
  | none => false

/-- Whether the word begins with a character that is its own capital form. -/
def startsUncased : List Char → Bool
  | [] => false
  | c :: _ => Text.upperChar c == [c]

/-- Each irregular plural with its singular; a plural listed twice belongs to the later noun. -/
def irregularSingulars : List (String × String) :=
  (Lexicon.irregular.flatMap fun (singular, plurals) =>
    plurals.map fun plural => (plural, singular)).reverse

/-- Each irregular noun with the plural in use. -/
def irregularPlurals : List (String × String) :=
  Lexicon.irregular.filterMap fun (singular, plurals) =>
    plurals.head?.map fun plural => (singular, plural)

/-- Whether the noun is the same in the singular and the plural. -/
def isInvariable
    (word : List Char) : Bool :=
  isListed Lexicon.invariable word || Lexicon.invariableEndings.any (hasEnding word)

/-- The rules that give a singular, in the order in which they are tried. -/
def singularRules : List (List Char → Option (List Char)) :=
  [forWholePairs Lexicon.pronounSingulars,
    forPairs irregularSingulars,
    forEndings ["quies"] 3 "y",
    forEndings ["persons"] 1 "",
    forEndings ["people"] 4 "rson",
    forEndings (endingsOf 0 "s" Lexicon.regularMan) 1 "",
    forEndings ["men"] 3 "man",
    forEndings ["mice"] 4 "mouse",
    forEndings (endingsOf 5 "lice" Lexicon.lice) 4 "louse",
    forEndings ["geese"] 5 "goose",
    forEndings ["teeth"] 5 "tooth",
    forEndings ["feet"] 4 "foot",
    forWholePairs [("dice", "die")],
    forEndings ["ceps"] 0 "",
    forEndings ["zoa"] 1 "on",
    forEndings (endingsOf 0 "s" Lexicon.hardCh) 1 "",
    forEndings (endingsOf 2 "ices" Lexicon.exToIces) 4 "ex",
    forEndings (endingsOf 2 "ices" Lexicon.ixToIces) 4 "ix",
    forEndings (endingsOf 2 "a" Lexicon.umToA) 1 "um",
    forEndings (endingsOf 2 "i" Lexicon.usToI) 1 "us",
    forEndings (endingsOf 2 "a" Lexicon.onToA) 1 "on",
    forEndings (endingsOf 0 "e" Lexicon.aToAe) 1 "",
    EndingRule.apply? ⟨Lexicon.pluralsOfUse, ["houses"], 1, ""⟩,
    forWords Lexicon.pluralsOfIe 1 "",
    EndingRule.apply? ⟨Lexicon.pluralsOfOe, ["shoes"], 1, ""⟩,
    forWords Lexicon.pluralsOfSse 1 "",
    EndingRule.apply? ⟨endingsOf 0 "es" Lexicon.singularS,
      endingsOf 0 "es" Lexicon.singularSEndings, 2, ""⟩,
    onlyIf startsUncased (forEndings ["eses"] 2 ""),
    forWords (endingsOf 0 "es" Lexicon.singleZ) 2 "",
    forWords Lexicon.pluralsOfZz 2 "",
    forEndings ["zzes"] 3 "",
    forWords Lexicon.pluralsOfChe 1 "",
    forEndings ["ches", "shes"] 2 "",
    forWords Lexicon.pluralsOfXe 1 "",
    forEndings ["xes"] 2 "",
    forWords Lexicon.pluralsOfVe 1 "",
    forEndings ["elves", "alves", "olves"] 3 "f",
    onlyIf (fun word => fromEnd? word 5 != some 'd') (forEndings ["eaves"] 3 "f"),
    forEndings ["nives", "lives", "wives"] 3 "fe",
    forEndings ["arves"] 3 "f",
    onlyIf (vowelAt 2) (forEndings ["ys"] 1 ""),
    forEndings ["ies"] 3 "y",
    EndingRule.apply? ⟨endingsOf 0 "s" Lexicon.shortO, endingsOf 0 "s" Lexicon.shortOEndings,
      1, ""⟩,
    forEndings ["aos", "eos", "ios", "oos", "uos"] 1 "",
    forEndings ["oes"] 2 "",
    forWords Lexicon.pluralsOfIs 2 "is",
    onlyIf (fun word => !hasEnding word "ss") (forEndings ["s"] 1 "")]

/-- The rules that give a plural, in the order in which they are tried. -/
def pluralRules : List (List Char → Option (List Char)) :=
  [forWholePairs Lexicon.pronouns,
    forPairs irregularPlurals,
    forEndings ["quy"] 1 "ies",
    forEndings ["person"] 4 "ople",
    forEndings Lexicon.regularMan 0 "s",
    forEndings ["man"] 3 "men",
    forEndings ["mouse"] 5 "mice",
    forWords Lexicon.lice 5 "lice",
    forEndings ["louse"] 0 "s",
    forEndings ["goose"] 5 "geese",
    forEndings ["tooth"] 5 "teeth",
    forEndings ["foot"] 4 "feet",
    forEndings ["taco"] 5 "tacos",
    forWholePairs [("die", "dice")],
    forEndings ["ceps"] 0 "",
    forEndings ["zoon"] 2 "a",
    forEndings ["cis", "sis", "xis"] 2 "es",
    forEndings Lexicon.hardCh 0 "s",
    forEndings Lexicon.exToIces 2 "ices",
    forEndings Lexicon.ixToIces 2 "ices",
    forEndings Lexicon.umToA 2 "a",
    forEndings Lexicon.usToI 2 "i",
    forEndings Lexicon.onToA 2 "a",
    forEndings Lexicon.aToAe 0 "e",
    EndingRule.apply? ⟨Lexicon.singularS, Lexicon.singularSEndings, 0, "es"⟩,
    onlyIf startsUncased (forEndings ["es"] 0 "es"),
    forEndings Lexicon.singleZ 0 "es",
    onlyIf (fun word => fromEnd? word 1 != some 'z') (forEndings ["z"] 0 "zes"),
    forEndings ["snooze"] 0 "s",
    forEndings ["ch", "sh", "zz", "ss", "x"] 0 "es",
    forEndings ["elf", "alf", "olf"] 1 "ves",
    onlyIf (fun word => fromEnd? word 3 != some 'd') (forEndings ["eaf"] 1 "ves"),
    forEndings ["nife", "life", "wife"] 2 "ves",
    forEndings ["arf"] 1 "ves",
    onlyIf (fun word => vowelAt 1 word || word.length == 1 || startsUncased word)
      (forEndings ["y"] 0 "s"),
    forEndings ["y"] 1 "ies",
    EndingRule.apply? ⟨Lexicon.shortO, Lexicon.shortOEndings, 0, "s"⟩,
    forEndings ["ao", "eo", "io", "oo", "uo"] 0 "s",
    forEndings ["o"] 0 "es"]

/-- The parts between the hyphens of a word. -/
def hyphenParts : List Char → List Char × List (List Char)
  | [] => ([], [])
  | c :: rest =>
      let (first, others) := hyphenParts rest
      if c = '-' then ([], first :: others) else (c :: first, others)

/-- The parts of a hyphenated compound before the noun that a preposition follows, that noun, the
preposition, and the parts after it; the last part is never the preposition. -/
def splitCompound
    (before : List (List Char)) :
    List (List Char) → Option (List (List Char) × List Char × List Char × List (List Char))
  | noun :: joint :: next :: rest =>
      if Lexicon.prepositions.contains (String.ofList joint) then
        some (before.reverse, noun, joint, next :: rest)
      else
        splitCompound (noun :: before) (joint :: next :: rest)
  | _ => none

/-- A compound put together again around its noun. -/
def joinCompound
    (before : List (List Char))
    (noun joint : List Char)
    (after : List (List Char)) : List Char :=
  (before.flatMap fun part => part ++ [' ']) ++ noun ++ ['-'] ++ joint ++ ['-'] ++
    List.intercalate [' '] after

/-- The form of a word: that of its noun if it is a compound, else what the first rule gives. -/
def inflectWith
    (inflectNoun : List Char → List Char)
    (rules : List (List Char → Option (List Char)))
    (word : List Char) : Option (List Char) :=
  let (first, others) := hyphenParts word
  match splitCompound [] (first :: others) with
  | some (before, noun, joint, after) =>
      some (joinCompound before (inflectNoun noun) joint after)
  | none => rules.findSome? (· word)

/-- The singular of a word without blanks around it, if it is not a singular already. -/
def singularOf?
    (word : List Char) : Option (List Char) :=
  if isInvariable word then some word
  else if isListed Lexicon.lastingUs word then none
  else
    let ofNoun (noun : List Char) : List Char :=
      if isInvariable noun then noun
      else if isListed Lexicon.lastingUs noun then noun
      else (singularRules.findSome? (· noun)).getD noun
    inflectWith ofNoun singularRules word

/-- The plural of a word without blanks around it. -/
def pluralOf
    (word : List Char) : List Char :=
  if isInvariable word then word
  else
    let ofNoun (noun : List Char) : List Char :=
      if isInvariable noun then noun
      else (pluralRules.findSome? (· noun)).getD (noun ++ ['s'])
    (inflectWith ofNoun pluralRules word).getD (word ++ ['s'])

/-- Applies a change to a word and keeps the blanks around it. A word over several lines stays as
it is, and a word of blanks alone has no form. -/
def insideBlanks
    (change : List Char → List Char)
    (word : List Char) : Option (List Char) :=
  let core := Text.stripChars word
  if core.isEmpty then
    if word.all (· == '\n') then some word else none
  else if core.contains '\n' then some word
  else
    let before := word.takeWhile Text.isBlank
    let after := (word.reverse.takeWhile Text.isBlank).reverse
    some (before ++ change core ++ after)

/-- A form, or what stands in for it if nothing is left of it. -/
def orStandIn
    (form standIn : List Char) : List Char :=
  if form.isEmpty then standIn else form

/-- The singular and the plural of a word in small letters, if it has them. A word that is nothing
but the ending of plurals is its own singular. -/
def inflectWord
    (word : List Char) : Option (List Char × List Char) := do
  let form ← insideBlanks (fun core => (singularOf? core).getD core) word
  let singular := orStandIn form word
  let plural ← insideBlanks pluralOf singular
  return (singular, orStandIn plural (singular ++ ['s']))

/-- The singular and the plural of a name by its last segment, in Pascal case; by the last letter
if that segment is empty. A last segment of blanks alone has none. -/
def lexiconInflection?
    (name : String) : Option Inflection :=
  let (first, others) := segmentsOf name.toList
  let segments := first :: others
  let last := Text.lowerChars (segments.getLast?.getD [])
  if last.isEmpty then some (suffixInflection (pascal name))
  else do
    let (singular, plural) ← inflectWord last
    let head := segments.dropLast.flatMap capitalize
    return ⟨String.ofList (head ++ capitalize singular), String.ofList (head ++ capitalize plural)⟩

end Tablewright.Naming
