import Haml.Literal.Pattern

/-!
# The grammar of expressions

Which token trees are expressions of the target language. The levels of binding strength are rules,
from `expression`, which binds weakest, to `atom`. `Shape.ofItems` tells whether items form one
expression or several with commas between them, and whether they nest deeper than can be read or
than an expression may be.
-/

namespace Haml.Literal

/-- The rules of the grammar. -/
inductive Rule where
  | expressions
  | expression
  | function
  | disjunction
  | conjunction
  | inversion
  | comparison
  | bitOr
  | bitXor
  | bitAnd
  | shift
  | sum
  | term
  | factor
  | power
  | awaited
  | primary
  | atom
  /-- An expression, or a name that is given the value of one. -/
  | named
  /-- A name that is given a value. -/
  | assignment
  /-- A named expression, or one that is unpacked. -/
  | element
  /-- The inside of parentheses that are no call. -/
  | parenthesised
  /-- The inside of square brackets that are no index. -/
  | display
  | braces
  /-- The inside of the parentheses of a call. -/
  | arguments
  /-- The value of an argument without a name. -/
  | argument
  /-- The inside of the square brackets of an index. -/
  | slices
  | slice
  | clauses
  | targets
  /-- What a comprehension assigns to, perhaps collecting several values. -/
  | starTarget
  /-- What a comprehension assigns to. -/
  | target

namespace Rule

open Pattern

/-- Patterns over these rules. -/
abbrev Phrase := Pattern Rule

/-- A pattern several levels of nesting further down. -/
def down : Nat → Phrase → Phrase
  | 0, p => p
  | n + 1, p => deeper (down n p)

/-- One of several marks. -/
def marks : List String → Phrase
  | [] => absent nothing
  | [m] => mark m
  | m :: more => mark m <|> marks more

/-- Operands with operators between them, which group from the left. -/
def chain (operand : Rule) (operators : List String) : Phrase :=
  deeper (growMany (rule operand) (marks operators >> rule operand))

/-- Operands with a word between them, which form one expression together. -/
def joined (operand : Rule) (w : String) : Phrase :=
  grow (rule operand) (deeper (many1 (deeper (word w >> rule operand))))

/-- An operator that compares its operands. -/
def comparator : Phrase :=
  marks ["==", "!=", "<=", "<", ">=", ">"] <|> (word "not" >> word "in") <|> word "in" <|>
    (word "is" >> maybe (word "not"))

/-- A part of an expression that is unpacked. -/
def starred : Phrase := node (mark "*" >> rule .bitOr)

/-- An argument that is unpacked. -/
def starredArgument : Phrase := node (mark "*" >> rule .expression)

/-- The end of a parameter: a comma, or the colon that follows all of them. -/
def parameterEnd : Phrase := mark "," <|> ahead (mark ":")

/-- A parameter without a default. -/
def plainParameter : Phrase := node (name >> parameterEnd)

/-- A parameter with a default. -/
def defaultParameter : Phrase := node (name >> mark "=" >> rule .expression >> parameterEnd)

/-- A parameter with or without a default. -/
def anyParameter : Phrase :=
  node (name >> maybe (mark "=" >> rule .expression) >> parameterEnd)

/-- The end of the parameters that have no names in a call. -/
def slash : Phrase := mark "/" >> parameterEnd

/-- The parameter for all further named arguments. -/
def doubleStarParameter : Phrase := mark "**" >> plainParameter

/-- The parameters from the first star on. -/
def starParameters : Phrase :=
  (mark "*" >> plainParameter >> many anyParameter >> maybe doubleStarParameter) <|>
    (mark "*" >> mark "," >> many1 anyParameter >> maybe doubleStarParameter) <|>
    doubleStarParameter

/-- The parameters from the first default on. -/
def defaultParameters : Phrase :=
  many1 defaultParameter >> maybe (slash >> many defaultParameter) >> maybe starParameters

/-- The parameters of a function. After a default all others up to a star need one as well. -/
def parameters : Phrase :=
  (many1 plainParameter >>
    ((slash >> many plainParameter >> many defaultParameter >> maybe starParameters) <|>
      defaultParameters <|> maybe starParameters)) <|>
    defaultParameters <|> starParameters

/-- Quoted texts in a row, or bytes in a row. -/
def quoted : Phrase :=
  many1 (text <|> formatted (rule .atom)) <|> many1 bytes

/-- What follows the first element of a list or set. -/
def elementTail : Phrase := commaTail (rule .element)

/-- What makes an element the first one of a tuple. -/
def tupleTail : Phrase := mark "," >> maybe (down 2 (commaList (rule .element)))

/-- An entry of a dictionary, or a dictionary that is unpacked. -/
def entryPattern : Phrase :=
  (mark "**" >> rule .bitOr) <|>
    (down 2 (rule .expression) >> mark ":" >> down 2 (rule .expression))

/-- What follows the first entry of a dictionary. -/
def entryTail : Phrase := commaTail entryPattern

/-- An argument with a name. -/
def namedArgument : Phrase := node (name >> mark "=" >> down 2 (rule .expression))

/-- Arguments after the first one with a name: unpacked lists come before unpacked dictionaries. -/
def namedArguments : Phrase :=
  let single := namedArgument <|> starredArgument
  let double := namedArgument <|> node (mark "**" >> rule .expression)
  let doubles := double >> deeper (many (mark "," >> double))
  (single >> deeper (many (mark "," >> single)) >> maybe (mark "," >> doubles)) <|> doubles

/-- An argument without a name. -/
def plainArgument : Phrase := deeper (rule .argument) >> absent (mark "=")

/-- What follows the first argument without a name. -/
def argumentTail : Phrase :=
  deeper (many (mark "," >> (starredArgument <|> plainArgument))) >>
    maybe (mark "," >> deeper namedArguments) >> maybe (mark ",")

/-- The bounds of a slice from its first colon on. -/
def bounds : Phrase :=
  mark ":" >> maybe (rule .expression) >> maybe (mark ":" >> maybe (rule .expression))

/-- What can follow an expression to select something of its value. -/
def trailer : Phrase :=
  (mark "." >> name) <|> group '(' (down 2 (rule .arguments)) <|> group '[' (rule .slices)

/-- Whether something follows that selects of a value. -/
def selects : Phrase := ahead (mark "." <|> brackets '(' <|> brackets '[')

/-- A clause of a comprehension. -/
def clause : Phrase :=
  node (maybe (word "async") >> word "for" >> rule .targets >> word "in" >>
    rule .disjunction >> many (word "if" >> rule .disjunction))

/-- What makes a target the first one of a tuple. -/
def targetTail : Phrase := mark "," >> maybe (commaList (rule .starTarget))

/-- A target that is unpacked. -/
def starredTarget : Phrase := node (mark "*" >> rule .target)

/-- The pattern of each rule. -/
def pattern : Rule → Phrase
  | expressions =>
    grow (rule .expression) (mark "," >> maybe (commaList (rule .expression)))
  | expression =>
    grow (rule .disjunction)
      (word "if" >> rule .disjunction >> word "else" >> rule .expression) <|> rule .function
  | function => node (word "lambda" >> maybe (node parameters) >> mark ":" >> rule .expression)
  | disjunction => joined .conjunction "or"
  | conjunction => joined .inversion "and"
  | inversion => node (word "not" >> rule .inversion) <|> rule .comparison
  | comparison => grow (rule .bitOr) (many1 (down 3 (comparator >> rule .bitOr)))
  | bitOr => chain .bitXor ["|"]
  | bitXor => chain .bitAnd ["^"]
  | bitAnd => chain .shift ["&"]
  | shift => chain .sum ["<<", ">>"]
  | sum => chain .term ["+", "-"]
  | term => chain .factor ["*", "/", "//", "%", "@"]
  | factor => node (marks ["+", "-", "~"] >> rule .factor) <|> rule .power
  | power => grow (rule .awaited) (mark "**" >> rule .factor)
  | awaited => node (word "await" >> rule .primary) <|> rule .primary
  | primary => deeper (growMany (rule .atom) trailer)
  | atom =>
    name <|> number <|> quoted <|> word "None" <|> word "True" <|> word "False" <|> mark "..." <|>
      group '(' (down 2 (rule .parenthesised)) <|>
      node (group '[' (down 3 (rule .display))) <|> node (group '\x7b' (down 3 (rule .braces)))
  | named => rule .assignment <|> (rule .expression >> absent (mark ":="))
  | assignment => node (name >> mark ":=" >> rule .expression)
  | element => starred <|> rule .named
  | parenthesised =>
    grow (deeper (rule .named)) (rule .clauses <|> tupleTail) <|> node (starred >> tupleTail) <|>
      node (word "yield" >>
        ((word "from" >> rule .expression) <|>
          maybe (commaList (starred <|> rule .expression)))) <|>
      node nothing
  | display =>
    maybe
      ((starred >> elementTail) <|> (deeper (rule .named) >> (rule .clauses <|> elementTail)))
  | braces =>
    maybe
      ((mark "**" >> rule .bitOr >> entryTail) <|> (starred >> elementTail) <|>
        (rule .assignment >> (rule .clauses <|> elementTail)) <|>
        (down 2 (rule .expression) >>
          ((mark ":" >> down 2 (rule .expression) >> (rule .clauses <|> entryTail)) <|>
            (absent (mark ":=") >> (rule .clauses <|> elementTail)))))
  | arguments =>
    maybe
      ((plainArgument >> (rule .clauses <|> argumentTail)) <|>
        (starredArgument >> argumentTail) <|> (namedArguments >> maybe (mark ",")))
  | argument => rule .assignment <|> (rule .expression >> absent (mark ":="))
  | slices => commaList (rule .slice <|> starredArgument)
  | slice =>
    rule .assignment <|> (rule .expression >> absent (mark ":=") >> maybe bounds) <|> bounds
  | clauses => many1 clause
  | targets => commaList (rule .starTarget)
  | starTarget => starredTarget <|> rule .target
  | target =>
    (rule .atom >> many (trailer >> selects) >> ((mark "." >> name) <|> group '[' (rule .slices)) >>
        absent selects) <|>
      name <|>
      group '(' (maybe
        ((starredTarget >> targetTail) <|> (rule .target >> maybe targetTail))) <|>
      group '[' (maybe (commaList (rule .starTarget)))

end Rule

/-- How deep rules may nest while an expression is read. -/
def maxLevels : Nat := 6000

/-- How deep an expression may be. -/
def maxDepth : Nat := 2975

/-- What items are as an expression. -/
inductive Shape where
  /-- An expression, or several with commas between them. -/
  | expression
  | malformed
  /-- Too deep to be read. -/
  | tooNested
  /-- Too deep as an expression. -/
  | tooDeep
deriving DecidableEq, Repr

/-- The shape of a row of items. -/
def Shape.ofItems (items : List Item) : Shape :=
  match matchAt Rule.pattern maxLevels (.rule .expressions) items with
  | .failed => .malformed
  | .tooNested => .tooNested
  | .matched depth [] => if depth ≤ maxDepth then .expression else .tooDeep
  | .matched _ _ => .malformed

/-- A quoted text by itself is an expression. -/
theorem Shape.ofItems_text (t : CodeText) : Shape.ofItems [.token (.text t)] = .expression := rfl

end Haml.Literal
