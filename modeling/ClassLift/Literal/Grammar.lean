import ClassLift.Literal.Phrase

set_option autoImplicit false

/-! # The grammar of expressions

The grammar as data: rules with ordered alternatives, each a sequence of items and what its
parts are built into. The first alternative that matches is taken.

Where no reading is found, the whole is read once more, now with diagnosing alternatives as
well. These match what is wrong and end the reading with a complaint.
-/

namespace ClassLift.Literal

/-- The rules. -/
inductive Rule where
  | literal | fieldExpression
  | expressions | expression | yieldExpression | starExpressions | starExpression
  | elements | element | assignment | namedExpression
  | disjunction | conjunction | inversion | comparison | comparisonPart | membership
  | bitOr | bitXor | bitAnd | shift | sum | term | factor | power | awaited | primary
  | slices | slice | atom | group | texts
  | lambda | lambdaHead | parameters | slashPlain | slashDefault | starParameters
  | tableParameter | plainParameter | defaultParameter | anyParameter | parameter | default
  | list | tuple | set | table | entries | entry | pair
  | clauses | clause | listComprehension | setComprehension | generator | tableComprehension
  | arguments | argumentList | keywordArguments | starred | keywordOrStarred | keywordOrSpread
  | targets | targetList | targetTuple | target | starTarget | targetAtom | targetOwner
  | afterOwner
  | plainExpression | badExpression | badCommand | badNamed | badArguments | badKeyword
  | badGroup | badLambdaHead | badLambdaStart | badStarParameters | badTableParameter
  | badDefault | badEntries | badPair | badClause | badComprehension | badTableComprehension
  deriving DecidableEq, Hashable

/-- How the outcomes of a rule at a place are used again. -/
inductive Rule.Kind where
  /-- They are not. -/
  | ordinary
  /-- The outcome is kept. -/
  | remembered
  /-- The rule starts with itself: its alternatives are tried again and again, and each time
  the rule itself stands for what it has matched so far, as long as that grows. -/
  | growing
  deriving DecidableEq

/-- How a rule is tried. -/
def Rule.kind : Rule → Rule.Kind
  | expression | starExpression | disjunction | conjunction | inversion | factor | awaited
  | texts | arguments | target | starTarget | badNamed => .remembered
  | bitOr | bitXor | bitAnd | shift | sum | term | primary | targetOwner => .growing
  | _ => .ordinary

/-- Is the rule tried without the diagnosing alternatives? -/
def Rule.isQuiet (r : Rule) : Bool := r = plainExpression

/-- What a rule is made of. -/
inductive Item where
  /-- An operator or bracket. -/
  | sign (s : String)
  | word (w : String)
  | name
  /-- A name that is a keyword in some places. -/
  | softWord
  | number
  /-- One text. -/
  | text
  /-- As many texts as there are, at least one; they are read as one. -/
  | texts
  | newline
  | finish
  | rule (r : Rule)
  /-- A diagnosing rule. -/
  | diagnosis (r : Rule)
  /-- One of several sequences. -/
  | either (sequences : List (List Item))
  /-- A sequence any number of times. -/
  | many (sequence : List Item)
  /-- A sequence at least once. -/
  | some (sequence : List Item)
  /-- An item at least once, with another between. -/
  | separated (item between : Item)
  | optional (item : Item)
  /-- The item would match here. -/
  | ahead (item : Item)
  /-- The item would not match here. -/
  | notAhead (item : Item)
  /-- From here on no other alternative is tried. -/
  | cut

/-- What becomes of the parts of an alternative. -/
inductive Build where
  /-- They stand for themselves. -/
  | parts
  /-- They are the parts of a phrase. -/
  | form (f : Form)
  | constant (v : Value)
  /-- The reading ends. -/
  | complain
  /-- The reading ends when the test holds of the number of brackets open after the last
  lexeme and of the parts; otherwise the rule does not match. -/
  | complainIf (test : Nat → List Phrase → Bool)

/-- One alternative of a rule. -/
structure Alternative where
  items : List Item
  build : Build

namespace Grammar

open Item

/-! ## Short forms -/

/-- An alternative whose parts stand for themselves. -/
def plain (items : List Item) : Alternative := ⟨items, .parts⟩

/-- An alternative that builds a phrase. -/
def phrase (f : Form) (items : List Item) : Alternative := ⟨items, .form f⟩

/-- A diagnosing alternative. -/
def wrong (items : List Item) : Alternative := ⟨items, .complain⟩

/-- A diagnosing alternative with a condition. -/
def wrongIf (test : Nat → List Phrase → Bool) (items : List Item) : Alternative :=
  ⟨items, .complainIf test⟩

/-- An alternative that is a rule. -/
def only (r : Rule) : Alternative := plain [rule r]

/-- A diagnosing rule as an alternative. -/
def diagnose (r : Rule) : Alternative := plain [diagnosis r]

def comma : Item := sign ","

def colon : Item := sign ":"

/-- A comma between the items, and perhaps one after them. -/
def listed (item : Item) : List Item := [separated item comma, optional comma]

/-- A left operand, an operator and a right operand. -/
def infixed (f : Form) (left : Rule) (operator : String) (right : Rule) : Alternative :=
  phrase f [rule left, sign operator, rule right]

/-- An operator of comparison and its right operand. -/
def compares (operator : List Item) : Alternative :=
  phrase .compared [either [operator ++ [rule .bitOr]]]

/-- A colon that is not the start of the assignment sign. -/
def notAssigned : Item := notAhead (sign ":=")

/-- An argument by position, or an element of a generator. -/
def plainArgument : Item := either [[rule .assignment], [rule .expression, notAssigned]]

/-- The opening brackets of the comprehensions that can be told apart from calls. -/
def squareOrCurly : Item := either [[sign "["], [sign "\x7b"]]

/-- The sign of an assignment follows. -/
def assigns : Item := either [[sign "="], [sign ":="]]

/-! ## The rules -/

/-- Operators, from the loosest to the tightest. -/
def operatorAlternatives : Rule → List Alternative
  | .disjunction =>
    [phrase .other [rule .conjunction, .some [either [[word "or", rule .conjunction]]]],
      only .conjunction]
  | .conjunction =>
    [phrase .other [rule .inversion, .some [either [[word "and", rule .inversion]]]],
      only .inversion]
  | .inversion => [phrase .other [word "not", rule .inversion], only .comparison]
  | .comparison =>
    [phrase .comparison [rule .bitOr, .some [rule .comparisonPart]], only .bitOr]
  | .comparisonPart =>
    [compares [sign "=="], compares [sign "!="], compares [sign "<="], compares [sign "<"],
      compares [sign ">="], compares [sign ">"], compares [word "not", word "in"],
      only .membership, compares [word "is", word "not"], compares [word "is"]]
  | .membership => [phrase .within [word "in", rule .bitOr]]
  | .bitOr => [infixed .other .bitOr "|" .bitXor, only .bitXor]
  | .bitXor => [infixed .other .bitXor "^" .bitAnd, only .bitAnd]
  | .bitAnd => [infixed .other .bitAnd "&" .shift, only .shift]
  | .shift => [infixed .other .shift "<<" .sum, infixed .other .shift ">>" .sum, only .sum]
  | .sum => [infixed .sum .sum "+" .term, infixed .difference .sum "-" .term, only .term]
  | .term =>
    [infixed .other .term "*" .factor, infixed .other .term "/" .factor,
      infixed .other .term "//" .factor, infixed .other .term "%" .factor,
      infixed .other .term "@" .factor, only .factor]
  | .factor =>
    [phrase .positive [sign "+", rule .factor], phrase .negative [sign "-", rule .factor],
      phrase .other [sign "~", rule .factor], only .power]
  | .power => [infixed .other .awaited "**" .factor, only .awaited]
  | .awaited => [phrase .other [word "await", rule .primary], only .primary]
  | .primary =>
    [phrase .member [rule .primary, sign ".", name],
      phrase .call [rule .primary, rule .generator],
      phrase .call [rule .primary, sign "(", optional (rule .arguments), sign ")"],
      phrase .member [rule .primary, sign "[", rule .slices, sign "]"], only .atom]
  | .slices =>
    [plain [rule .slice, notAhead comma],
      phrase .tuple (listed (either [[rule .slice], [rule .starred]]))]
  | .slice =>
    [phrase .other [optional (rule .expression), colon, optional (rule .expression),
        optional (either [[colon, optional (rule .expression)]])],
      only .namedExpression]
  | _ => []

/-- Names, constants, and what stands in brackets. -/
def atomAlternatives : Rule → List Alternative
  | .atom =>
    [plain [name], ⟨[word "True"], .constant .boolean⟩, ⟨[word "False"], .constant .boolean⟩,
      ⟨[word "None"], .constant .nothing⟩, plain [ahead text, rule .texts], plain [number],
      plain [ahead (sign "("), either [[rule .tuple], [rule .group], [rule .generator]]],
      plain [ahead (sign "["), either [[rule .list], [rule .listComprehension]]],
      plain [ahead (sign "\x7b"), either [[rule .table], [rule .set], [rule .tableComprehension],
        [rule .setComprehension]]],
      ⟨[sign "..."], .constant .dots⟩]
  | .texts => [plain [.texts]]
  | .group =>
    [plain [sign "(", either [[rule .yieldExpression], [rule .namedExpression]], sign ")"],
      diagnose .badGroup]
  | .list => [phrase .list [sign "[", optional (rule .elements), sign "]"]]
  | .tuple =>
    [phrase .tuple [sign "(",
      optional (either [[rule .element, comma, optional (rule .elements)]]), sign ")"]]
  | .set => [phrase .set [sign "\x7b", rule .elements, sign "\x7d"]]
  | .table =>
    [phrase .table [sign "\x7b", optional (rule .entries), sign "\x7d"],
      plain [sign "\x7b", diagnosis .badEntries, sign "\x7d"]]
  | .entries => [plain (listed (rule .entry))]
  | .entry => [phrase .spread [sign "**", rule .bitOr], only .pair]
  | .pair => [phrase .entry [rule .expression, colon, rule .expression]]
  | .elements => [plain (listed (rule .element))]
  | .element => [phrase .starred [sign "*", rule .bitOr], only .namedExpression]
  | .clauses => [plain [.some [rule .clause]]]
  | .clause =>
    [phrase .clause [word "async", word "for", rule .targets, word "in", cut, rule .disjunction,
        many [either [[word "if", rule .disjunction]]]],
      phrase .clause [word "for", rule .targets, word "in", cut, rule .disjunction,
        many [either [[word "if", rule .disjunction]]]],
      diagnose .badClause]
  | .listComprehension =>
    [phrase .other [sign "[", rule .namedExpression, rule .clauses, sign "]"],
      diagnose .badComprehension]
  | .setComprehension =>
    [phrase .other [sign "\x7b", rule .namedExpression, rule .clauses, sign "\x7d"],
      diagnose .badComprehension]
  | .generator =>
    [phrase .other [sign "(", plainArgument, rule .clauses, sign ")"],
      diagnose .badComprehension]
  | .tableComprehension =>
    [phrase .other [sign "\x7b", rule .pair, rule .clauses, sign "\x7d"],
      diagnose .badTableComprehension]
  | _ => []

/-- The arguments of a call. -/
def argumentAlternatives : Rule → List Alternative
  | .arguments =>
    [plain [rule .argumentList, optional comma, ahead (sign ")")], diagnose .badArguments]
  | .argumentList =>
    [plain [separated (either [[rule .starred], [plainArgument, notAhead (sign "=")]]) comma,
        optional (either [[comma, rule .keywordArguments]])],
      only .keywordArguments]
  | .keywordArguments =>
    [plain [separated (rule .keywordOrStarred) comma, comma,
        separated (rule .keywordOrSpread) comma],
      plain [separated (rule .keywordOrStarred) comma],
      plain [separated (rule .keywordOrSpread) comma]]
  | .starred => [phrase .starred [sign "*", rule .expression]]
  | .keywordOrStarred =>
    [diagnose .badKeyword, phrase .keyword [name, sign "=", rule .expression], only .starred]
  | .keywordOrSpread =>
    [diagnose .badKeyword, phrase .keyword [name, sign "=", rule .expression],
      phrase .keyword [sign "**", rule .expression]]
  | _ => []

/-- What a loop can assign to. -/
def targetAlternatives : Rule → List Alternative
  | .targets =>
    [plain [rule .target, notAhead comma],
      phrase .tuple [rule .target, many [either [[comma, rule .target]]], optional comma]]
  | .targetList => [plain (listed (rule .target))]
  | .targetTuple =>
    [plain [rule .target, .some [either [[comma, rule .target]]], optional comma],
      plain [rule .target, comma]]
  | .target =>
    [phrase .starred [sign "*", either [[notAhead (sign "*"), rule .target]]], only .starTarget]
  | .starTarget =>
    [phrase .member [rule .targetOwner, sign ".", name, notAhead (rule .afterOwner)],
      phrase .member [rule .targetOwner, sign "[", rule .slices, sign "]",
        notAhead (rule .afterOwner)],
      only .targetAtom]
  | .targetAtom =>
    [plain [name], plain [sign "(", rule .starTarget, sign ")"],
      phrase .tuple [sign "(", optional (rule .targetTuple), sign ")"],
      phrase .list [sign "[", optional (rule .targetList), sign "]"]]
  | .targetOwner =>
    [phrase .member [rule .targetOwner, sign ".", name, ahead (rule .afterOwner)],
      phrase .member [rule .targetOwner, sign "[", rule .slices, sign "]",
        ahead (rule .afterOwner)],
      phrase .call [rule .targetOwner, rule .generator, ahead (rule .afterOwner)],
      phrase .call [rule .targetOwner, sign "(", optional (rule .arguments), sign ")",
        ahead (rule .afterOwner)],
      plain [rule .atom, ahead (rule .afterOwner)]]
  | .afterOwner => [plain [sign "("], plain [sign "["], plain [sign "."]]
  | _ => []

/-- Functions without a name, and their parameters. -/
def lambdaAlternatives : Rule → List Alternative
  | .lambda =>
    [phrase .other [word "lambda", optional (rule .lambdaHead), colon, rule .expression]]
  | .lambdaHead => [diagnose .badLambdaHead, only .parameters]
  | .parameters =>
    [plain [rule .slashPlain, many [rule .plainParameter], many [rule .defaultParameter],
        optional (rule .starParameters)],
      plain [rule .slashDefault, many [rule .defaultParameter],
        optional (rule .starParameters)],
      plain [.some [rule .plainParameter], many [rule .defaultParameter],
        optional (rule .starParameters)],
      plain [.some [rule .defaultParameter], optional (rule .starParameters)],
      only .starParameters]
  | .slashPlain =>
    [plain [.some [rule .plainParameter], sign "/", comma],
      plain [.some [rule .plainParameter], sign "/", ahead colon]]
  | .slashDefault =>
    [plain [many [rule .plainParameter], .some [rule .defaultParameter], sign "/", comma],
      plain [many [rule .plainParameter], .some [rule .defaultParameter], sign "/", ahead colon]]
  | .starParameters =>
    [diagnose .badStarParameters,
      plain [sign "*", rule .plainParameter, many [rule .anyParameter],
        optional (rule .tableParameter)],
      plain [sign "*", comma, .some [rule .anyParameter], optional (rule .tableParameter)],
      only .tableParameter]
  | .tableParameter =>
    [diagnose .badTableParameter, plain [sign "**", rule .plainParameter]]
  | .plainParameter => [plain [rule .parameter, comma], plain [rule .parameter, ahead colon]]
  | .defaultParameter =>
    [plain [rule .parameter, rule .default, comma],
      plain [rule .parameter, rule .default, ahead colon]]
  | .anyParameter =>
    [plain [rule .parameter, optional (rule .default), comma],
      plain [rule .parameter, optional (rule .default), ahead colon]]
  | .parameter => [plain [name]]
  | .default => [plain [sign "=", rule .expression], diagnose .badDefault]
  | _ => []

/-- Mistakes in expressions, calls and brackets. -/
def wrongAlternatives : Rule → List Alternative
  | .badExpression =>
    [wrongIf (fun open_ parts => !parts.head?.any Phrase.isCommand && open_ != 0)
        [notAhead (either [[name, text], [softWord]]), rule .disjunction, rule .plainExpression],
      wrong [rule .disjunction, word "if", rule .disjunction,
        notAhead (either [[word "else"], [colon]])]]
  | .badCommand =>
    [wrongIf (fun _ parts => parts.head?.any Phrase.isCommand)
      [name, notAhead (sign "("), rule .starExpressions]]
  | .badNamed =>
    [wrong [rule .expression, sign ":=", rule .expression],
      wrong [name, sign "=", rule .bitOr, notAhead assigns],
      wrong [notAhead (either [[rule .list], [rule .tuple], [rule .generator], [word "True"],
          [word "None"], [word "False"]]),
        rule .bitOr, sign "=", rule .bitOr, notAhead assigns]]
  | .badArguments =>
    [wrong [rule .argumentList, comma, sign "*"],
      wrong [rule .expression, rule .clauses, comma,
        optional (either [[rule .argumentList], [rule .expression, rule .clauses]])],
      wrong [name, sign "=", rule .expression, rule .clauses],
      wrongIf (fun _ parts => 1 < (parts.filter Phrase.isPositional).length)
        [rule .argumentList, rule .clauses],
      wrong [rule .argumentList, comma, rule .expression, rule .clauses],
      wrong [rule .argumentList, comma, rule .argumentList]]
  | .badKeyword =>
    [wrong [either [[word "True"], [word "False"], [word "None"]], sign "="],
      wrong [name, sign "=", rule .expression, rule .clauses],
      wrong [notAhead (either [[name, sign "="]]), rule .expression, sign "="]]
  | .badGroup =>
    [wrong [sign "(", rule .starred, sign ")"],
      wrong [sign "(", sign "**", rule .expression, sign ")"]]
  | .badEntries =>
    [wrong [separated (rule .entry) comma, comma, diagnosis .badPair],
      wrong [rule .expression, colon, sign "*", rule .bitOr],
      wrong [rule .expression, colon, ahead (either [[sign "\x7d"], [comma]])]]
  | .badPair =>
    [wrong [rule .expression, notAhead colon],
      wrong [rule .expression, colon, sign "*", rule .bitOr],
      wrong [rule .expression, colon, ahead (either [[sign "\x7d"], [comma]])]]
  | .badClause =>
    [wrongIf (fun _ parts => !parts.all Phrase.isTarget)
      [optional (word "async"), word "for", rule .starExpressions]]
  | .badComprehension =>
    [wrong [either [[sign "["], [sign "("], [sign "\x7b"]], rule .starred, rule .clauses],
      wrong [squareOrCurly, rule .element, comma, rule .elements, rule .clauses],
      wrong [squareOrCurly, rule .element, comma, rule .clauses]]
  | .badTableComprehension =>
    [wrong [sign "\x7b", sign "**", rule .bitOr, rule .clauses, sign "\x7d"]]
  | _ => []

/-- Mistakes in the parameters of a function without a name. -/
def wrongParameters : Rule → List Alternative
  | .badLambdaHead =>
    [wrong [many [rule .plainParameter], diagnosis .badLambdaStart, rule .plainParameter],
      wrong [many [rule .plainParameter], sign "(", separated (rule .parameter) comma,
        optional comma, sign ")"],
      wrong [sign "/", comma],
      wrong [either [[rule .slashPlain], [rule .slashDefault]], many [rule .anyParameter],
        sign "/"],
      wrong [optional (either [[rule .slashPlain], [rule .slashDefault]]),
        many [rule .anyParameter], sign "*", either [[comma], [rule .plainParameter]],
        many [rule .anyParameter], sign "/"],
      wrong [.some [rule .anyParameter], sign "/", sign "*"]]
  | .badLambdaStart => [only .slashDefault, plain [.some [rule .defaultParameter]]]
  | .badStarParameters =>
    [wrong [sign "*", either [[colon], [comma, either [[colon], [sign "**"]]]]],
      wrong [sign "*", rule .parameter, sign "="],
      wrong [sign "*", either [[rule .plainParameter], [comma]], many [rule .anyParameter],
        sign "*", either [[rule .plainParameter], [comma]]]]
  | .badTableParameter =>
    [wrong [sign "**", rule .parameter, sign "="],
      wrong [sign "**", rule .parameter, comma, rule .parameter],
      wrong [sign "**", rule .parameter, comma, either [[sign "*"], [sign "**"], [sign "/"]]]]
  | .badDefault => [wrong [sign "=", ahead (either [[sign ")"], [comma]])]]
  | _ => []

/-- Whole expressions. -/
def expressionAlternatives : Rule → List Alternative
  | .literal => [plain [rule .expressions, many [newline], finish]]
  | .fieldExpression => [only .starExpressions]
  | .expressions =>
    [phrase .tuple [rule .expression, .some [either [[comma, rule .expression]]],
        optional comma],
      phrase .tuple [rule .expression, comma], only .expression]
  | .expression =>
    [diagnose .badExpression, diagnose .badCommand,
      phrase .other [rule .disjunction, word "if", rule .disjunction, word "else",
        rule .expression],
      only .disjunction, only .lambda]
  | .plainExpression =>
    [phrase .other [rule .disjunction, word "if", rule .disjunction, word "else",
        rule .expression],
      only .disjunction, only .lambda]
  | .yieldExpression =>
    [phrase .other [word "yield", word "from", rule .expression],
      phrase .other [word "yield", optional (rule .starExpressions)]]
  | .starExpressions =>
    [phrase .tuple [rule .starExpression, .some [either [[comma, rule .starExpression]]],
        optional comma],
      phrase .tuple [rule .starExpression, comma], only .starExpression]
  | .starExpression => [phrase .starred [sign "*", rule .bitOr], only .expression]
  | .assignment => [phrase .other [name, sign ":=", cut, rule .expression]]
  | .namedExpression =>
    [only .assignment, diagnose .badNamed, plain [rule .expression, notAssigned]]
  | _ => []

end Grammar

/-- The alternatives of a rule, in the order in which they are tried. -/
def Rule.alternatives (r : Rule) : List Alternative :=
  open Grammar in
  expressionAlternatives r ++ operatorAlternatives r ++ atomAlternatives r
    ++ argumentAlternatives r ++ targetAlternatives r ++ lambdaAlternatives r
    ++ wrongAlternatives r ++ wrongParameters r

end ClassLift.Literal
