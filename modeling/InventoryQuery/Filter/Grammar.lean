import InventoryQuery.Filter.Recognizer

/-! The grammar of filter expressions. Blanks must stand between the parts of a
comparison and may stand around parentheses and commas. The words `column` and
`color` after a column select another form of comparison when an operator
follows them. -/
namespace InventoryQuery.Filter.Grammar

open Recognizer

def spaces : Recognizer := skip (.span isSpace)

def gap : Recognizer := skip (.run isSpace)

def openParen : Recognizer := token .openParen (.exact ['('])

def closeParen : Recognizer := token .closeParen (.exact [')'])

def comma : Recognizer := token .comma (.exact [','])

def connective : Recognizer := token .connective .connective

def column : Recognizer := token .column .column

def operator : Recognizer := token .operator .operator

def columnKeyword : Recognizer := token .columnKeyword (.exact ['c', 'o', 'l', 'u', 'm', 'n'])

def colorKeyword : Recognizer := token .colorKeyword (.exact ['c', 'o', 'l', 'o', 'r'])

def columnForm : Recognizer := rule .columnForm (sequence [columnKeyword, gap, operator])

def colorForm : Recognizer := rule .colorForm (sequence [colorKeyword, gap, operator])

def quotedBy (r : Rule) (delimiter : Char) : Recognizer :=
  sequence [skip (.exact [delimiter]), token r (.inside delimiter), skip (.exact [delimiter])]

def quoted : Recognizer :=
  rule .quoted (choice [quotedBy .singleQuotedText '\'', quotedBy .doubleQuotedText '"'])

def network : Recognizer := token .network .network

def number : Recognizer := token .number .number

def boolean : Recognizer := token .boolean .boolean

def word : Recognizer := token .word .word

def value : Recognizer := rule .value (choice [quoted, network, number, boolean, word])

def comparison : Recognizer :=
  rule .comparison
    (sequence [column, gap, choice [columnForm, colorForm, operator], gap, value])

def members (expression : Recognizer) : Recognizer :=
  rule .members
    (sequence [expression, repeated (sequence [spaces, comma, spaces, expression])])

def group (expression : Recognizer) : Recognizer :=
  rule .group
    (sequence [connective, spaces, openParen, spaces, members expression, spaces, closeParen])

/-- A group is read before a comparison. Members of a group stand behind its
connective, so they begin at a shorter rest. -/
def expression (c : Cursor) : Reading :=
  rule .expression
    (choice [group fun inner =>
        if inner.rest.length < c.rest.length then expression inner else failure inner,
      comparison]) c
termination_by c.rest.length

def endOfInput : Recognizer := token .endOfInput .endOfInput

def filter : Recognizer :=
  rule .filter (sequence [spaces, expression, spaces, endOfInput])

def recognizer : Rule → Recognizer
  | .endOfInput => endOfInput
  | .space => skip (.char isSpace)
  | .filter => filter
  | .expression => expression
  | .group => group expression
  | .connective => connective
  | .members => members expression
  | .openParen => openParen
  | .closeParen => closeParen
  | .comma => comma
  | .comparison => comparison
  | .columnForm => columnForm
  | .colorForm => colorForm
  | .columnKeyword => columnKeyword
  | .colorKeyword => colorKeyword
  | .column => column
  | .operator => operator
  | .value => value
  | .quoted => quoted
  | .singleQuotedText => token .singleQuotedText (.inside '\'')
  | .doubleQuotedText => token .doubleQuotedText (.inside '"')
  | .network => network
  | .number => number
  | .boolean => boolean
  | .word => word
  | .terminator => choice [skip (.char isTerminator), endOfInput]

end InventoryQuery.Filter.Grammar
