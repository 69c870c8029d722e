import UrlRouting.Proofs.Regex.Language
import UrlRouting.Regex.Reader

/-!
# Regular rules

The part of the syntax of rules that has no anchors, looks, references, flags and final choices, by
itself: what such a rule is made of, how it is spelled and which texts it stands for.

A rule is a choice between sequences of nodes.  `Spells` says how it is written; because a digit, a
brace or a question mark behind a part may belong to that part, the relation also tells what
follows.  `languageOfChoice` is the usual language, in which a single character or a set is compared
without regard to case.
-/

namespace UrlRouting.Regex

/-- How often something is repeated; without a maximum the repetition has no end. -/
structure Counts where
  least : Nat
  most : Option Nat
  ordered : ∀ m ∈ most, least ≤ m

/-- A part of a regular rule. -/
inductive Node
  | char (code : Nat)
  | any
  | set (negated : Bool) (members : List Member)
  | group (captures : Bool) (alternatives : List (List Node))
  | repeated (isLazy : Bool) (counts : Counts) (body : Node)

/-! ## Languages -/

/-- What a set demands of a character: one of a single member is compared like that member. -/
def setTest (negated : Bool) (members : List Member) : CharTest :=
  match members.eraseDups with
  | [.code code] => .ofCode true .unicode negated code
  | members => .ofMembers true .unicode negated members

mutual

/-- The texts that a node stands for. -/
def Node.language : Node → Language Char
  | .char code => (CharTest.ofCode true .unicode false code).language
  | .any => CharTest.noLineFeed.language
  | .set negated members => (setTest negated members).language
  | .group _ alternatives => languageOfChoice alternatives
  | .repeated _ counts body => Regex.repeated counts.least counts.most body.language

/-- The texts that nodes in a row stand for. -/
def languageOfSequence : List Node → Language Char
  | [] => 1
  | node :: nodes => node.language * languageOfSequence nodes

/-- The texts that a choice between sequences stands for. -/
def languageOfChoice : List (List Node) → Language Char
  | [] => 0
  | nodes :: alternatives => languageOfSequence nodes + languageOfChoice alternatives

end

/-! ## Spelling of characters -/

/-- The characters that do not stand for themselves; an opening brace does if no count follows. -/
def metacharacters : Text := ".^$*+?\x7b[\\|()".toList

/-- The control characters that a letter behind a backslash stands for, outside sets. -/
def controls : List (Char × Nat) :=
  [('a', 7), ('f', 12), ('n', 10), ('r', 13), ('t', 9), ('v', 11)]

/-- The classes that a letter behind a backslash stands for. -/
def categories : List (Char × Member) :=
  [('d', .category false .digit), ('D', .category true .digit),
    ('s', .category false .blank), ('S', .category true .blank),
    ('w', .category false .word), ('W', .category true .word)]

/-- The letters that hexadecimal digits follow, and how many. -/
def hexWidths : List (Char × Nat) := [('x', 2), ('u', 4), ('U', 8)]

/-- At most `count` octal digits, and fewer only if no further one follows. -/
structure OctalDigits (count : Nat) (digits rest : Text) : Prop where
  areOctal : ∀ c ∈ digits, isOctalDigit c = true
  length_le : digits.length ≤ count
  ends : digits.length < count → ∀ c ∈ rest.head?, isOctalDigit c = false

/-- How a character is written behind a backslash, in sets and outside: by its code, by its name, or
as it stands if it is no letter or digit of ASCII. -/
inductive SpellsEscaped : Nat → Text → Prop
  | hex {letter : Char} {width : Nat} {digits : Text} (h : (letter, width) ∈ hexWidths)
      (hlength : digits.length = width) (hdigits : ∀ c ∈ digits, Text.isHexDigit c = true) :
      SpellsEscaped (Text.natInBase 16 digits) (letter :: digits)
  | named {name : Text} {code : Nat} (h : Text.named? name = some code)
      (hname : ∀ c ∈ name, c ≠ '\\' ∧ c ≠ '\x7d') (hne : name ≠ []) :
      SpellsEscaped code ('N' :: '\x7b' :: (name ++ ['\x7d']))
  | itself {c : Char} (hletter : Text.isAsciiLetter c = false)
      (hdigit : Text.isAsciiDigit c = false) : SpellsEscaped c.toNat [c]

/-- The counts between braces: one number, or two with a comma between them, each of which may be
left out. -/
inductive SpellsBounds : Nat → Option Nat → Text → Prop
  | exactly {digits : Text} (h : ∀ c ∈ digits, Text.isAsciiDigit c = true) (hne : digits ≠ []) :
      SpellsBounds (Text.natInBase 10 digits) (some (Text.natInBase 10 digits)) digits
  | between {low high : Text} (hlow : ∀ c ∈ low, Text.isAsciiDigit c = true)
      (hhigh : ∀ c ∈ high, Text.isAsciiDigit c = true) :
      SpellsBounds (Text.natInBase 10 low)
        (if high = [] then none else some (Text.natInBase 10 high)) (low ++ ',' :: high)

/-- How a single character is written in front of a text. -/
inductive SpellsChar : Nat → Text → Text → Prop
  | literal {c : Char} {rest : Text} (h : c ∉ metacharacters) : SpellsChar c.toNat [c] rest
  | brace {rest : Text}
      (h : ∀ least most t behind, SpellsBounds least most t → rest ≠ t ++ '\x7d' :: behind) :
      SpellsChar ('\x7b').toNat ['\x7b'] rest
  | control {c : Char} {code : Nat} {rest : Text} (h : (c, code) ∈ controls) :
      SpellsChar code ['\\', c] rest
  | escaped {code : Nat} {t rest : Text} (h : SpellsEscaped code t) :
      SpellsChar code ('\\' :: t) rest
  | zero {digits rest : Text} (h : OctalDigits 2 digits rest) :
      SpellsChar (Text.natInBase 8 digits) ('\\' :: '0' :: digits) rest
  | octal {c d e : Char} {rest : Text} (hc : isOctalDigit c = true) (hne : c ≠ '0')
      (hd : isOctalDigit d = true) (he : isOctalDigit e = true) :
      SpellsChar (Text.natInBase 8 [c, d, e]) ['\\', c, d, e] rest

/-! ## Spelling of sets -/

/-- How a member that is no range is written in a set, in front of a text. -/
inductive SpellsMember : Member → Text → Text → Prop
  | literal {c : Char} {rest : Text} (h : c ≠ '\\') : SpellsMember (.code c.toNat) [c] rest
  | control {c : Char} {code : Nat} {rest : Text} (h : (c, code) ∈ ('b', 8) :: controls) :
      SpellsMember (.code code) ['\\', c] rest
  | category {c : Char} {member : Member} {rest : Text} (h : (c, member) ∈ categories) :
      SpellsMember member ['\\', c] rest
  | escaped {code : Nat} {t rest : Text} (h : SpellsEscaped code t) :
      SpellsMember (.code code) ('\\' :: t) rest
  | octal {c : Char} {digits rest : Text} (hc : isOctalDigit c = true)
      (h : OctalDigits 2 digits rest) :
      SpellsMember (.code (Text.natInBase 8 (c :: digits))) ('\\' :: c :: digits) rest

/-- How the members of a set are written with the bracket that ends it, in front of a text.  A
bracket that comes first is a member, and so is a minus in front of the last bracket. -/
inductive SpellsMembers : (isFirst : Bool) → List Member → Text → Text → Prop
  | close {rest : Text} : SpellsMembers false [] [']'] rest
  | minus {isFirst : Bool} {member : Member} {t rest : Text}
      (h : SpellsMember member t ('-' :: ']' :: rest)) (hfirst : isFirst = true ∨ t ≠ [']']) :
      SpellsMembers isFirst [member, .code ('-').toNat] (t ++ ['-', ']']) rest
  | one {isFirst : Bool} {member : Member} {members : List Member} {t u rest : Text}
      (h : SpellsMember member t (u ++ rest)) (hfirst : isFirst = true ∨ t ≠ [']'])
      (hminus : u.head? ≠ some '-') (hmembers : SpellsMembers false members u rest) :
      SpellsMembers isFirst (member :: members) (t ++ u) rest
  | range {isFirst : Bool} {low high : Nat} {members : List Member} {t u v rest : Text}
      (hlow : SpellsMember (.code low) t ('-' :: (u ++ (v ++ rest))))
      (hfirst : isFirst = true ∨ t ≠ [']'])
      (hhigh : SpellsMember (.code high) u (v ++ rest)) (hend : u ≠ [']']) (hle : low ≤ high)
      (hmembers : SpellsMembers false members v rest) :
      SpellsMembers isFirst (.range low high :: members) (t ++ '-' :: (u ++ v)) rest

/-! ## Spelling of rules -/

/-- How the counts of a repetition are written. -/
inductive SpellsCounts : Counts → Text → Prop
  | star : SpellsCounts ⟨0, none, nofun⟩ ['*']
  | plus : SpellsCounts ⟨1, none, nofun⟩ ['+']
  | question : SpellsCounts ⟨0, some 1, fun m _ => Nat.zero_le m⟩ ['?']
  | braces {counts : Counts} {t : Text} (h : SpellsBounds counts.least counts.most t) :
      SpellsCounts counts ('\x7b' :: (t ++ ['\x7d']))

/-- What is written in a regular rule. -/
inductive Phrase
  | node (node : Node)
  | sequence (nodes : List Node)
  | choice (alternatives : List (List Node))

/-- How a phrase is written in front of a text. -/
inductive Spells : Phrase → Text → Text → Prop
  | char {code : Nat} {t rest : Text} (h : SpellsChar code t rest) :
      Spells (.node (.char code)) t rest
  | any {rest : Text} : Spells (.node .any) ['.'] rest
  | category {c : Char} {member : Member} {rest : Text} (h : (c, member) ∈ categories) :
      Spells (.node (.set false [member])) ['\\', c] rest
  | set {members : List Member} {t rest : Text} (h : SpellsMembers true members t rest)
      (hcaret : t.head? ≠ some '^') : Spells (.node (.set false members)) ('[' :: t) rest
  | negatedSet {members : List Member} {t rest : Text} (h : SpellsMembers true members t rest) :
      Spells (.node (.set true members)) ('[' :: '^' :: t) rest
  | capturing {alternatives : List (List Node)} {t rest : Text}
      (h : Spells (.choice alternatives) t (')' :: rest)) :
      Spells (.node (.group true alternatives)) ('(' :: (t ++ [')'])) rest
  | named {alternatives : List (List Node)} {name t rest : Text}
      (hname : ∀ c ∈ name, c ≠ '\\' ∧ c ≠ '>') (hne : name ≠ [])
      (h : Spells (.choice alternatives) t (')' :: rest)) :
      Spells (.node (.group true alternatives))
        ('(' :: '?' :: 'P' :: '<' :: (name ++ '>' :: (t ++ [')']))) rest
  | plain {alternatives : List (List Node)} {t rest : Text}
      (h : Spells (.choice alternatives) t (')' :: rest)) :
      Spells (.node (.group false alternatives)) ('(' :: '?' :: ':' :: (t ++ [')'])) rest
  | greedy {node : Node} {counts : Counts} {t u rest : Text}
      (h : Spells (.node node) t (u ++ rest)) (hcounts : SpellsCounts counts u)
      (hends : ∀ c ∈ rest.head?, c ≠ '?' ∧ c ≠ '+') :
      Spells (.node (.repeated false counts node)) (t ++ u) rest
  | lazy {node : Node} {counts : Counts} {t u rest : Text}
      (h : Spells (.node node) t (u ++ '?' :: rest)) (hcounts : SpellsCounts counts u) :
      Spells (.node (.repeated true counts node)) (t ++ (u ++ ['?'])) rest
  | nil {rest : Text} : Spells (.sequence []) [] rest
  | cons {node : Node} {nodes : List Node} {t u rest : Text}
      (h : Spells (.node node) t (u ++ rest)) (hnodes : Spells (.sequence nodes) u rest) :
      Spells (.sequence (node :: nodes)) (t ++ u) rest
  | single {nodes : List Node} {t rest : Text} (h : Spells (.sequence nodes) t rest) :
      Spells (.choice [nodes]) t rest
  | bar {nodes : List Node} {alternatives : List (List Node)} {t u rest : Text}
      (h : Spells (.sequence nodes) t ('|' :: (u ++ rest)))
      (halternatives : Spells (.choice alternatives) u rest) :
      Spells (.choice (nodes :: alternatives)) (t ++ '|' :: u) rest

/-- A character that is no metacharacter is spelled by itself. -/
theorem spells_cons_literal {c : Char} {nodes : List Node} {t rest : Text}
    (h : c ∉ metacharacters) (hnodes : Spells (.sequence nodes) t rest) :
    Spells (.sequence (.char c.toNat :: nodes)) (c :: t) rest :=
  .cons (.char (.literal h)) hnodes

/-! ## In front of a closing parenthesis

What spells a phrase at the end of a rule spells it in a group as well.
-/

variable {count : Nat} {digits t rest : Text}

theorem OctalDigits.append (h : OctalDigits count digits rest) (behind : Text) :
    OctalDigits count digits (rest ++ ')' :: behind) := by
  refine ⟨h.areOctal, h.length_le, fun hlength c hc => ?_⟩
  cases rest with
  | nil =>
    cases hc
    decide
  | cons d rest => exact h.ends hlength c hc

theorem SpellsBounds.chars {least : Nat} {most : Option Nat} (h : SpellsBounds least most t) :
    ∀ c ∈ t, Text.isAsciiDigit c = true ∨ c = ',' := by
  intro c hc
  cases h with
  | exactly h => exact .inl (h c hc)
  | between hlow hhigh =>
    rcases List.mem_append.1 hc with hc | hc
    · exact .inl (hlow c hc)
    · rcases List.mem_cons.1 hc with rfl | hc
      · exact .inr rfl
      · exact .inl (hhigh c hc)

theorem SpellsChar.append {code : Nat} (h : SpellsChar code t rest) (behind : Text) :
    SpellsChar code t (rest ++ ')' :: behind) := by
  cases h with
  | literal h => exact .literal h
  | brace h =>
    refine .brace fun least most t after ht heq => ?_
    rcases List.append_eq_append_iff.1 heq with ⟨u, rfl, hu⟩ | ⟨u, rfl, hu⟩
    · cases u with
      | nil => cases hu
      | cons c u =>
        obtain ⟨rfl, -⟩ := List.cons.inj hu
        rcases ht.chars ')' (by simp) with h | h <;> revert h <;> decide
    · cases u with
      | nil => cases hu
      | cons c u =>
        obtain ⟨rfl, -⟩ := List.cons.inj hu
        exact h least most t u ht rfl
  | control h => exact .control h
  | escaped h => exact .escaped h
  | zero h => exact .zero (h.append behind)
  | octal hc hne hd he => exact .octal hc hne hd he

theorem SpellsMember.append {member : Member} (h : SpellsMember member t rest) (behind : Text) :
    SpellsMember member t (rest ++ ')' :: behind) := by
  cases h with
  | literal h => exact .literal h
  | control h => exact .control h
  | category h => exact .category h
  | escaped h => exact .escaped h
  | octal hc h => exact .octal hc (h.append behind)

theorem SpellsMembers.append {isFirst : Bool} {members : List Member}
    (h : SpellsMembers isFirst members t rest) (behind : Text) :
    SpellsMembers isFirst members t (rest ++ ')' :: behind) := by
  induction h with
  | close => exact .close
  | minus h hfirst => exact .minus (h.append behind) hfirst
  | one h hfirst hminus _ ih =>
    refine .one ?_ hfirst hminus ih
    rw [← List.append_assoc]
    exact h.append behind
  | range hlow hfirst hhigh hend hle _ ih =>
    refine .range ?_ hfirst ?_ hend hle ih
    · simpa using hlow.append behind
    · rw [← List.append_assoc]
      exact hhigh.append behind

/-- What spells a phrase in front of a text spells it also if a closing parenthesis follows that. -/
theorem Spells.append {phrase : Phrase} (h : Spells phrase t rest) (behind : Text) :
    Spells phrase t (rest ++ ')' :: behind) := by
  induction h with
  | char h => exact .char (h.append behind)
  | any => exact .any
  | category h => exact .category h
  | set h hcaret => exact .set (h.append behind) hcaret
  | negatedSet h => exact .negatedSet (h.append behind)
  | capturing _ ih => exact .capturing ih
  | named hname hne _ ih => exact .named hname hne ih
  | plain _ ih => exact .plain ih
  | @greedy _ _ _ u rest _ hcounts hends ih =>
    rw [List.append_assoc] at ih
    refine .greedy ih hcounts fun c hc => ?_
    cases rest with
    | nil =>
      cases hc
      decide
    | cons d rest => exact hends c hc
  | lazy _ hcounts ih =>
    rw [List.append_assoc] at ih
    exact .lazy ih hcounts
  | nil => exact .nil
  | cons _ _ ih ihnodes =>
    rw [List.append_assoc] at ih
    exact .cons ih ihnodes
  | single _ ih => exact .single ih
  | bar _ _ ih ihalternatives =>
    refine .bar ?_ ihalternatives
    simpa using ih

theorem SpellsChar.ne_nil {code : Nat} (h : SpellsChar code t rest) : t ≠ [] := by
  cases h <;> exact List.cons_ne_nil _ _

theorem SpellsChar.head?_ne {code : Nat} (h : SpellsChar code t rest) : t.head? ≠ some '?' := by
  cases h with
  | literal h =>
    intro heq
    cases heq
    exact h (by decide)
  | _ => simp

theorem SpellsCounts.ne_nil {counts : Counts} (h : SpellsCounts counts t) : t ≠ [] := by
  cases h <;> exact List.cons_ne_nil _ _

theorem Spells.ne_nil {node : Node} (h : Spells (.node node) t rest) : t ≠ [] := by
  cases h with
  | char h => exact h.ne_nil
  | greedy _ hcounts => exact List.append_ne_nil_of_right_ne_nil _ hcounts.ne_nil
  | lazy => simp
  | _ => exact List.cons_ne_nil _ _

/-- Nothing that is spelled begins with a question mark. -/
theorem Spells.head?_ne {phrase : Phrase} (h : Spells phrase t rest) : t.head? ≠ some '?' := by
  induction h with
  | char h => exact h.head?_ne
  | greedy h _ _ ih | lazy h _ ih | cons h _ ih _ =>
    rw [List.head?_append_of_ne_nil _ h.ne_nil]
    exact ih
  | single _ ih => exact ih
  | @bar _ _ t _ _ _ _ ih _ =>
    cases t with
    | nil => simp
    | cons c t => exact ih
  | _ => simp

end UrlRouting.Regex
