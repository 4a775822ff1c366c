/-!
# The template grammar

Templates are read by a parsing expression grammar. Each rule is a named `Pattern`; a rule is
plain, atomic or compound. Between the parts of a sequence and between the rounds of a
repetition, a plain context skips blanks; atomic and compound rules do not. The rules of an
atomic rule leave no trace in the tree and are not reported when they fail; those of a compound
rule are. Helper patterns such as `valueName` below are not rules: they are written inline.

The order of the constructors of `Rule` is the order in which a failed parse lists the rules it
expected, and `Rule.name` is how it spells them.
-/

namespace Courier.Template

/-- The named rules of the template grammar, in reporting order. -/
inductive Rule where
  | eoi
  | keywords
  | escape
  | rawText
  | rawBlockText
  | literal
  | nullLiteral
  | booleanLiteral
  | numberLiteral
  | jsonChar
  | stringInner
  | stringLiteral
  | arrayLiteral
  | objectLiteral
  | identifier
  | partialIdentifier
  | reference
  | param
  | hash
  | blockParam
  | subexpression
  | leadingTilde
  | trailingTilde
  | expression
  | htmlExpression
  | decoratorExpression
  | partialExpression
  | invertTagItem
  | invertTag
  | invertChainTag
  | helperBlockStart
  | helperBlockEnd
  | decoratorBlockStart
  | decoratorBlockEnd
  | partialBlockStart
  | partialBlockEnd
  | rawBlockStart
  | rawBlockEnd
  | comment
  | compactComment
  | template
  | pathId
  | pathRawId
  | pathUp
  | pathRoot
  | pathLocal
  | pathInline
  deriving DecidableEq, Ord, Inhabited

/-- How a failed parse spells a rule. -/
def Rule.name : Rule → String
  | .eoi => "EOI"
  | .keywords => "keywords"
  | .escape => "escape"
  | .rawText => "raw_text"
  | .rawBlockText => "raw_block_text"
  | .literal => "literal"
  | .nullLiteral => "null_literal"
  | .booleanLiteral => "boolean_literal"
  | .numberLiteral => "number_literal"
  | .jsonChar => "json_char"
  | .stringInner => "string_inner"
  | .stringLiteral => "string_literal"
  | .arrayLiteral => "array_literal"
  | .objectLiteral => "object_literal"
  | .identifier => "identifier"
  | .partialIdentifier => "partial_identifier"
  | .reference => "reference"
  | .param => "helper_parameter"
  | .hash => "hash"
  | .blockParam => "block_param"
  | .subexpression => "subexpression"
  | .leadingTilde => "leading_tilde_to_omit_whitespace"
  | .trailingTilde => "trailing_tilde_to_omit_whitespace"
  | .expression => "expression"
  | .htmlExpression => "html_expression"
  | .decoratorExpression => "decorator_expression"
  | .partialExpression => "partial_expression"
  | .invertTagItem => "invert_tag_item"
  | .invertTag => "invert_tag"
  | .invertChainTag => "invert_chain_tag"
  | .helperBlockStart => "helper_block_start"
  | .helperBlockEnd => "helper_block_end"
  | .decoratorBlockStart => "decorator_block_start"
  | .decoratorBlockEnd => "decorator_block_end"
  | .partialBlockStart => "partial_block_start"
  | .partialBlockEnd => "partial_block_end"
  | .rawBlockStart => "raw_block_start"
  | .rawBlockEnd => "raw_block_end"
  | .comment => "hbs_comment"
  | .compactComment => "hbs_comment_compact"
  | .template => "template"
  | .pathId => "path_id"
  | .pathRawId => "path_raw_id"
  | .pathUp => "path_up"
  | .pathRoot => "path_root"
  | .pathLocal => "path_local"
  | .pathInline => "path_inline"

/-- Whether a rule's own body is plain, atomic or compound. -/
inductive RuleKind where
  | plain
  | atomic
  | compound

/-- Classes of single characters. -/
inductive CharClass where
  | digit
  | hexDigit
  | alnum
  /-- A character of a name: ASCII letters and digits, `-`, `_`, `$` and every non-ASCII character. -/
  | symbol
  /-- A character of a partial's name: as `symbol` without `$`, with `/` and `.`. -/
  | partialSymbol

/-- Whether a character is in a class. -/
def CharClass.test : CharClass → Char → Bool
  | .digit, c => c.isDigit
  | .hexDigit, c => c.isDigit || ('a' ≤ c && c ≤ 'f') || ('A' ≤ c && c ≤ 'F')
  | .alnum, c => c.isAlphanum
  | .symbol, c => c.isAlphanum || c == '-' || c == '_' || c == '$' || c.toNat ≥ 0x80
  | .partialSymbol, c =>
    c.isAlphanum || c == '-' || c == '_' || c.toNat ≥ 0x80 || c == '/' || c == '.'

/-- A parsing expression. -/
inductive Pattern where
  | lit (s : String)
  | cls (c : CharClass)
  | any
  /-- Succeeds at the end of the input. -/
  | atEnd
  | call (r : Rule)
  | seq (a b : Pattern)
  | alt (a b : Pattern)
  | opt (p : Pattern)
  | star (p : Pattern)
  | plus (p : Pattern)
  /-- Succeeds where `p` does, consuming nothing. -/
  | ahead (p : Pattern)
  /-- Succeeds where `p` fails, consuming nothing. -/
  | notAhead (p : Pattern)
  deriving Inhabited

/-- The sequence of a list of patterns. -/
def seqOf : List Pattern → Pattern
  | [] => .lit ""
  | [p] => p
  | p :: ps => .seq p (seqOf ps)

/-- The ordered choice of a list of patterns. -/
def altOf : List Pattern → Pattern
  | [] => .notAhead (.lit "")
  | [p] => p
  | p :: ps => .alt p (altOf ps)

/-! ### Inline patterns -/

/-- A leading `~`, which trims the blanks before a tag. -/
def leading : Pattern := .opt (.call .leadingTilde)

/-- A trailing `~`, which trims the blanks after a tag. -/
def trailing : Pattern := .opt (.call .trailingTilde)

/-- A value named in a tag: a subexpression or a path. -/
def valueName : Pattern := .alt (.call .subexpression) (.call .reference)

/-- Arguments after a helper's name: hash entries and parameters. -/
def arguments : Pattern := .alt (.call .hash) (.call .param)

/-- A helper call with at least one argument, or a lone name. -/
def callOrName : Pattern :=
  .alt (seqOf [.call .identifier, .plus arguments]) valueName

/-- A helper's name, its arguments and block parameters. -/
def expLine : Pattern :=
  seqOf [.call .identifier, .star arguments, .opt (.call .blockParam)]

/-- A partial's name and its arguments. -/
def partialExpLine : Pattern :=
  seqOf [.alt (.call .partialIdentifier) valueName, .star arguments]

/-- A separator between path steps. -/
def pathSep : Pattern := .alt (.lit "/") (.lit ".")

/-- A bracketed path step, taken literally. -/
def pathKey : Pattern := seqOf [.lit "[", .call .pathRawId, .lit "]"]

/-- A step of a path. -/
def pathItem : Pattern := .alt (.call .pathId) pathKey

/-- A tag `{{` body `}}` with optional `~` on either side. -/
def tag (opening : String) (body : List Pattern) (closing : String) : Pattern :=
  seqOf ([.lit opening, leading] ++ body ++ [trailing, .lit closing])

/-- A helper block: its start, its body, `else` branches and its end. -/
def helperBlock : Pattern :=
  seqOf [.call .helperBlockStart, .call .template,
    .star (seqOf [.call .invertChainTag, .call .template]),
    .opt (seqOf [.call .invertTag, .call .template]), .call .helperBlockEnd]

/-- A decorator block. -/
def decoratorBlock : Pattern :=
  seqOf [.call .decoratorBlockStart, .call .template, .call .decoratorBlockEnd]

/-- A partial block. -/
def partialBlock : Pattern :=
  seqOf [.call .partialBlockStart, .call .template, .call .partialBlockEnd]

/-- A raw block: its start, its text taken as is, and its end. -/
def rawBlock : Pattern :=
  seqOf [.call .rawBlockStart, .call .rawBlockText, .call .rawBlockEnd]

/-- A whole template and the end of the input. -/
def document : Pattern := .seq (.call .template) (.call .eoi)

/-! ### Rules -/

/-- The kind of each rule. -/
def Rule.kind : Rule → RuleKind
  | .escape | .nullLiteral | .booleanLiteral | .numberLiteral | .stringInner | .identifier
  | .partialIdentifier | .comment | .compactComment | .pathId => .atomic
  | .rawText | .rawBlockText | .stringLiteral | .reference | .htmlExpression
  | .pathInline => .compound
  | _ => .plain

/-- The body of each rule. -/
def Rule.body : Rule → Pattern
  | .eoi => .atEnd
  | .keywords => .alt (.lit "as") (.lit "else")
  | .escape =>
    .alt (seqOf [.lit "\\", .lit "\x7b\x7b", .opt (.lit "\x7b\x7b")])
      (seqOf [.lit "\\", .plus (.lit "\\"), .ahead (.lit "\x7b\x7b")])
  | .rawText => .plus (.alt (.call .escape) (.seq (.notAhead (.lit "\x7b\x7b")) .any))
  | .rawBlockText => .star (.alt (.call .escape) (.seq (.notAhead (.lit "\x7b\x7b\x7b\x7b")) .any))
  | .literal =>
    altOf [.call .stringLiteral, .call .arrayLiteral, .call .objectLiteral,
      .call .numberLiteral, .call .nullLiteral, .call .booleanLiteral]
  | .nullLiteral => .seq (.lit "null") (.notAhead (.cls .symbol))
  | .booleanLiteral => .seq (.alt (.lit "true") (.lit "false")) (.notAhead (.cls .symbol))
  | .numberLiteral =>
    seqOf [.opt (.lit "-"), .plus (.cls .digit), .opt (.lit "."), .star (.cls .digit),
      .opt (seqOf [.lit "E", .opt (.lit "-"), .plus (.cls .digit)]), .notAhead (.cls .symbol)]
  | .jsonChar =>
    altOf [.seq (.notAhead (.alt (.lit "\"") (.lit "\\"))) .any,
      .seq (.lit "\\") (altOf (["\"", "\\", "/", "b", "f", "n", "r", "t"].map Pattern.lit)),
      .seq (.lit "\\") (seqOf [.lit "u", .cls .hexDigit, .cls .hexDigit, .cls .hexDigit,
        .cls .hexDigit])]
  | .stringInner => .star (.call .jsonChar)
  | .stringLiteral => seqOf [.lit "\"", .call .stringInner, .lit "\""]
  | .arrayLiteral =>
    seqOf [.lit "[", .opt (.call .literal), .star (.seq (.lit ",") (.call .literal)), .lit "]"]
  | .objectLiteral =>
    seqOf [.lit "\x7b", .opt (seqOf [.call .stringLiteral, .lit ":", .call .literal]),
      .star (seqOf [.lit ",", .call .stringLiteral, .lit ":", .call .literal]), .lit "\x7d"]
  | .identifier => .plus (.cls .symbol)
  | .partialIdentifier =>
    altOf [.plus (.cls .partialSymbol), seqOf [.lit "[", .plus .any, .lit "]"],
      seqOf [.lit "'", .plus (.seq (.notAhead (.lit "'")) (.alt (.lit "\\'") .any)), .lit "'"]]
  | .reference => .call .pathInline
  | .param =>
    .seq (.notAhead (.seq (.call .keywords) (.notAhead (.cls .symbol))))
      (altOf [.call .literal, .call .reference, .call .subexpression])
  | .hash => seqOf [.call .identifier, .lit "=", .call .param]
  | .blockParam =>
    seqOf [.lit "as", .lit "|", .call .identifier, .opt (.call .identifier), .lit "|"]
  | .subexpression =>
    seqOf [.lit "(", .alt (seqOf [.call .identifier, .plus arguments]) (.call .reference),
      .lit ")"]
  | .leadingTilde => .lit "~"
  | .trailingTilde => .lit "~"
  | .expression =>
    seqOf [.notAhead (.call .invertTag), .notAhead (.call .invertChainTag),
      tag "\x7b\x7b" [callOrName] "\x7d\x7d"]
  | .htmlExpression =>
    altOf [tag "\x7b\x7b\x7b" [callOrName] "\x7d\x7d\x7d",
      seqOf [.lit "\x7b\x7b", leading, .lit "\x7b", callOrName, .lit "\x7d", trailing, .lit "\x7d\x7d"],
      tag "\x7b\x7b" [.lit "&", valueName] "\x7d\x7d"]
  | .decoratorExpression => tag "\x7b\x7b" [.lit "*", expLine] "\x7d\x7d"
  | .partialExpression => tag "\x7b\x7b" [.lit ">", partialExpLine] "\x7d\x7d"
  | .invertTagItem => .alt (.lit "else") (.lit "^")
  | .invertTag => tag "\x7b\x7b" [.call .invertTagItem] "\x7d\x7d"
  | .invertChainTag => tag "\x7b\x7b" [.call .invertTagItem, expLine] "\x7d\x7d"
  | .helperBlockStart => tag "\x7b\x7b" [.lit "#", expLine] "\x7d\x7d"
  | .helperBlockEnd => tag "\x7b\x7b" [.lit "/", .call .identifier] "\x7d\x7d"
  | .decoratorBlockStart => tag "\x7b\x7b" [.lit "#", .lit "*", expLine] "\x7d\x7d"
  | .decoratorBlockEnd => tag "\x7b\x7b" [.lit "/", .call .identifier] "\x7d\x7d"
  | .partialBlockStart => tag "\x7b\x7b" [.lit "#", .lit ">", partialExpLine] "\x7d\x7d"
  | .partialBlockEnd => tag "\x7b\x7b" [.lit "/", .call .partialIdentifier] "\x7d\x7d"
  | .rawBlockStart => tag "\x7b\x7b\x7b\x7b" [expLine] "\x7d\x7d\x7d\x7d"
  | .rawBlockEnd => tag "\x7b\x7b\x7b\x7b" [.lit "/", .call .identifier] "\x7d\x7d\x7d\x7d"
  | .comment =>
    seqOf [.lit "\x7b\x7b", leading, .lit "!--", .star (.seq (.notAhead (.lit "--\x7d\x7d")) .any),
      .lit "--", trailing, .lit "\x7d\x7d"]
  | .compactComment =>
    seqOf [.lit "\x7b\x7b", leading, .lit "!", .star (.seq (.notAhead (.lit "\x7d\x7d")) .any), trailing,
      .lit "\x7d\x7d"]
  | .template =>
    .star (altOf [.call .rawText, .call .expression, .call .htmlExpression, helperBlock,
      rawBlock, .call .comment, .call .compactComment, .call .decoratorExpression,
      decoratorBlock, .call .partialExpression, partialBlock])
  | .pathId => .plus (.cls .symbol)
  | .pathRawId => .star (.seq (.notAhead (.lit "]")) .any)
  | .pathUp => .lit ".."
  | .pathRoot => .lit "@root"
  | .pathLocal => .lit "@"
  | .pathInline =>
    seqOf [.opt (.alt (.seq (.lit "this") pathSep) (.lit "./")),
      .opt (.seq (.call .pathRoot) pathSep), .opt (.call .pathLocal),
      .star (.seq (.call .pathUp) pathSep), pathItem, .star (.seq pathSep pathItem)]

end Courier.Template
