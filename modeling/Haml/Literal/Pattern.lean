import Haml.Literal.Item

/-!
# Patterns of items

A grammar is a table of patterns, one for each rule. A pattern matches items at the start of a row:
the first alternative that matches counts, and repetition takes as many items as it can. Rules may
nest up to a limit only, and a match tells how deep the expression is that it has read.
`Pattern.run` matches one pattern, given how rules are matched; `matchAt` closes the circle.
-/

namespace Haml.Literal

/-- Words that are no names. -/
def keywords : List Text :=
  ["False", "None", "True", "and", "as", "assert", "async", "await", "break", "class", "continue",
   "def", "del", "elif", "else", "except", "finally", "for", "from", "global", "if", "import", "in",
   "is", "lambda", "nonlocal", "not", "or", "pass", "raise", "return", "try", "while", "with",
   "yield"].map String.toList

/-- A pattern of items over a set of rules. -/
inductive Pattern (ρ : Type) where
  /-- No item at all. -/
  | nothing
  /-- A keyword. -/
  | word (w : String)
  | mark (m : String)
  /-- A word that is no keyword. -/
  | name
  | number
  | text
  | bytes
  /-- A formatted text, each field of which matches as a whole. -/
  | formatted (field : Pattern ρ)
  /-- A pair of brackets, the inside of which matches as a whole. -/
  | group (bracket : Char) (inside : Pattern ρ)
  /-- A pair of brackets with anything inside. -/
  | brackets (bracket : Char)
  /-- What a rule stands for. -/
  | rule (r : ρ)
  /-- The same pattern one level of nesting further down. -/
  | deeper (p : Pattern ρ)
  | seq (p q : Pattern ρ)
  | choice (p q : Pattern ρ)
  /-- As many matches in a row as there are. -/
  | many (p : Pattern ρ)
  /-- No item, where the pattern does not match. -/
  | absent (p : Pattern ρ)
  /-- An expression made of what matches. -/
  | node (p : Pattern ρ)
  /-- A match of `p`, and an expression made of it and of `q` if `q` matches after it. -/
  | grow (p q : Pattern ρ)
  /-- A match of `p`, and for each match of `q` after it an expression made of all before. -/
  | growMany (p q : Pattern ρ)

namespace Pattern

variable {ρ : Type}

instance : AndThen (Pattern ρ) := ⟨fun p q => seq p (q ())⟩

instance : OrElse (Pattern ρ) := ⟨fun p q => choice p (q ())⟩

/-- A match, or none. -/
def maybe (p : Pattern ρ) : Pattern ρ := p <|> nothing

/-- One match or more. -/
def many1 (p : Pattern ρ) : Pattern ρ := p >> many p

/-- No item, where the pattern matches. -/
def ahead (p : Pattern ρ) : Pattern ρ := absent (absent p)

/-- A comma and a match, any number of times, and perhaps a comma at the end. -/
def commaTail (p : Pattern ρ) : Pattern ρ := deeper (many (mark "," >> p)) >> maybe (mark ",")

/-- Matches with commas between them, and perhaps a comma at the end. -/
def commaList (p : Pattern ρ) : Pattern ρ := p >> commaTail p

end Pattern

/-- How the match of a pattern ends. -/
inductive Match where
  | failed
  /-- The rules nest too deep. -/
  | tooNested
  /-- The depth of the expression that was read, and the items after it. -/
  | matched (depth : Nat) (rest : List Item)

namespace Match

/-- The match of what follows, if there is one. -/
def andThen (m : Match) (next : Nat → List Item → Match) : Match :=
  match m with
  | matched depth rest => next depth rest
  | m => m

/-- The match with another depth. -/
def mapDepth (f : Nat → Nat) (m : Match) : Match :=
  m.andThen fun depth rest => matched (f depth) rest

/-- A match that has to take all items: `rest` follows. -/
def whole (m : Match) (rest : List Item) : Match :=
  m.andThen fun depth left => if left.isEmpty then matched depth rest else failed

/-- The match of one item that passes a test. -/
def item (test : Item → Bool) (items : List Item) : Match :=
  match items with
  | first :: rest => if test first then matched 1 rest else failed
  | [] => failed

/-- As many matches in a row as there are, at most one for each item of `limit`. Each depth is
joined to those before by `join`. -/
def repeated (join : Nat → Nat → Nat) (one : List Item → Match) (limit : List Item) (depth : Nat)
    (items : List Item) : Match :=
  match limit with
  | [] => matched depth items
  | _ :: limit =>
    match one items with
    | failed => matched depth items
    | tooNested => tooNested
    | matched more rest => repeated join one limit (join depth more) rest

/-- Matches of each of several rows as a whole. -/
def every (one : List Item → Match) (rest : List Item) : List (List Item) → Match
  | [] => matched 1 rest
  | row :: rows =>
    ((one row).whole []).andThen fun depth _ => (every one rest rows).mapDepth (max (depth + 2))

end Match

/-- The keyword of an item. -/
def Item.isWord (w : String) : Item → Bool
  | .token (.name t) => t == w.toList
  | _ => false

/-- Whether an item is a mark. -/
def Item.isMark (m : String) : Item → Bool
  | .token (.mark t) => t == m.toList
  | _ => false

/-- Whether an item is a name. -/
def Item.isName : Item → Bool
  | .token (.name t) => !keywords.contains t
  | _ => false

/-- Whether an item is a number. -/
def Item.isNumber : Item → Bool
  | .token (.number _) => true
  | _ => false

/-- Whether an item is a quoted text. -/
def Item.isText : Item → Bool
  | .token (.text _) => true
  | _ => false

/-- Whether an item is a string of bytes. -/
def Item.isBytes : Item → Bool
  | .token (.bytes _) => true
  | _ => false

/-- Whether an item is a pair of brackets. -/
def Item.isGroup (bracket : Char) : Item → Bool
  | .group b _ => b == bracket
  | _ => false

/-- The match of a pattern, where `sub` matches a pattern one level of nesting further down and
`grammar` gives the pattern of each rule. -/
def Pattern.run {ρ : Type} (grammar : ρ → Pattern ρ) (sub : Pattern ρ → List Item → Match) :
    Pattern ρ → List Item → Match
  | nothing, items => .matched 0 items
  | word w, items => Match.item (Item.isWord w) items
  | mark m, items => Match.item (Item.isMark m) items
  | name, items => Match.item Item.isName items
  | number, items => Match.item Item.isNumber items
  | text, items => Match.item Item.isText items
  | bytes, items => Match.item Item.isBytes items
  | brackets b, items => Match.item (Item.isGroup b) items
  | formatted field, items =>
    match items with
    | .formatted fields :: rest => Match.every (field.run grammar sub) rest fields
    | _ => .failed
  | group bracket inside, items =>
    match items with
    | .group b inner :: rest =>
      if b == bracket then (inside.run grammar sub inner).whole rest else .failed
    | _ => .failed
  | rule r, items => sub (grammar r) items
  | deeper p, items => sub p items
  | seq p q, items =>
    (p.run grammar sub items).andThen fun depth rest =>
      (q.run grammar sub rest).mapDepth (max depth)
  | choice p q, items =>
    match p.run grammar sub items with
    | .failed => q.run grammar sub items
    | m => m
  | many p, items => Match.repeated max (p.run grammar sub) items 0 items
  | absent p, items =>
    match p.run grammar sub items with
    | .failed => .matched 0 items
    | .matched _ _ => .failed
    | .tooNested => .tooNested
  | node p, items => (p.run grammar sub items).mapDepth (· + 1)
  | grow p q, items =>
    (p.run grammar sub items).andThen fun depth rest =>
      match q.run grammar sub rest with
      | .failed => .matched depth rest
      | m => m.mapDepth fun more => max depth more + 1
  | growMany p q, items =>
    (p.run grammar sub items).andThen fun depth rest =>
      Match.repeated (fun before more => max before more + 1) (q.run grammar sub) rest depth rest

/-- The match of a pattern whose rules nest at most `levels` deep. -/
def matchAt {ρ : Type} (grammar : ρ → Pattern ρ) : Nat → Pattern ρ → List Item → Match
  | 0, _, _ => .tooNested
  | levels + 1, p, items => p.run grammar (matchAt grammar levels) items

end Haml.Literal
