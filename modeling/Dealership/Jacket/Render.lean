import Dealership.Desking.Money
import Dealership.Jacket.Schema
import Mathlib.Data.List.Dedup

/-!
# The renderer

A document is the template body with every `{{field_code}}` replaced by the
escaped words of the assembled field, wrapped in the smallest page that reads as
a document.  Nothing else goes in, so the same template and the same fields give
the same text.  A placeholder nobody filled refuses the render and names the
field.

Texts are lists of characters here: the patterns of the source are scanned from
the left, and each of them matches in at most one way at a given place.
-/

namespace Dealership.Jacket

open Library

/-! ## Words -/

/-- The five characters `escapeHtml` replaces.  The source replaces `&` first, so
no replacement is replaced again. -/
def escapeHtmlChar : Char → List Char
  | '&' => "&amp;".toList
  | '<' => "&lt;".toList
  | '>' => "&gt;".toList
  | '"' => "&quot;".toList
  | '\'' => "&#39;".toList
  | c => [c]

def escapeHtml (value : List Char) : List Char := value.flatMap escapeHtmlChar

/-- `\w`. -/
def isWordChar (c : Char) : Bool := c.isAlphanum || c = '_'

/-- `(\d{3})+(?!\d)` at the head of a text. -/
def threes : List Char → Bool
  | a :: b :: c :: cs => a.isDigit && b.isDigit && c.isDigit &&
      (!(cs.head?.any Char.isDigit) || threes cs)
  | _ => false

/-- `replace(/\B(?=(\d{3})+(?!\d))/g, ',')`, behind the character `before`. -/
def groupedAfter (before : Option Char) : List Char → List Char
  | [] => []
  | c :: cs =>
    (if before.any isWordChar = isWordChar c && threes (c :: cs) then [','] else []) ++
      c :: groupedAfter (some c) cs

def grouped (digits : List Char) : List Char := groupedAfter none digits

/-- Cents as `$1,234.56 USD`: the one place a figure becomes words. -/
def moneyWords (cents : Int) (currency : String) : List Char :=
  let plain := Desking.formatCents cents
  let negative := plain.head? = some '-'
  let pieces := (plain.erase '-').splitOn '.'
  (if negative then ['-'] else []) ++ '$' :: (grouped (pieces[0]?.getD ['0']) ++
    '.' :: (pieces[1]?.getD ['0', '0'] ++ ' ' :: currency.toList))

/-- Parts per million as a percentage with four decimals. -/
def ppmWords (ppm : Int) : List Char :=
  let negative := ppm < 0
  let magnitude := if negative then -ppm else ppm
  let frac := padStart 4 (intText (magnitude.tmod 10000))
  (if negative then ['-'] else []) ++ intText (magnitude.tdiv 10000) ++ '.' :: (frac ++ ['%'])

def fieldWords (field : AssembledField) : List Char :=
  match field.valueKind with
  | .money => moneyWords (field.valueCents.getD 0) (field.currency.getD "USD")
  | .rate_ppm => ppmWords (field.valueInteger.getD 0)
  | .integer => intText (field.valueInteger.getD 0)
  | .text | .date => (field.valueText.getD "").toList

/-! ## Placeholders -/

/-- `[a-z0-9_.]`. -/
def isCodeChar (c : Char) : Bool := ('a' ≤ c && c ≤ 'z') || c.isDigit || c = '_' || c = '.'

/-- The closing of a placeholder: white space, then two braces. -/
def closesPlaceholder (cs : List Char) : Option (List Char) :=
  match cs.dropWhile jsWhitespace with
  | '}' :: '}' :: rest => some rest
  | _ => none

/-- A match of `PLACEHOLDER` at the head of a text: the field code it names and
what follows it.  A code character is neither white space nor a brace, so the
longest run of them is the only one that can close. -/
def placeholderAt : List Char → Option (String × List Char)
  | '{' :: '{' :: cs =>
    let inner := cs.dropWhile jsWhitespace
    let code := inner.takeWhile isCodeChar
    if 2 ≤ code.length && code.length ≤ 60 then
      (closesPlaceholder (inner.dropWhile isCodeChar)).map (String.ofList code, ·)
    else none
  | _ => none

/-- A template body as plain characters and placeholders. -/
inductive Piece where
  | char (c : Char)
  | placeholder (code : String)

/-- The leftmost matches of `PLACEHOLDER`, one after another; `fuel` bounds the
length of the text. -/
def pieces : Nat → List Char → List Piece
  | 0, _ => []
  | _ + 1, [] => []
  | fuel + 1, c :: cs =>
    match placeholderAt (c :: cs) with
    | some (code, rest) => .placeholder code :: pieces fuel rest
    | none => .char c :: pieces fuel cs

/-- `new Map(input.fields.map((f) => [f.fieldCode, f]))`: the last field under a
code is the one that is found. -/
def fieldOf (fields : List AssembledField) (code : String) : Option AssembledField :=
  fields.reverse.find? fun f => f.fieldCode = code

/-- The text of a piece; a placeholder without a field leaves nothing. -/
def pieceText (fields : List AssembledField) : Piece → List Char
  | .char c => [c]
  | .placeholder code => (fieldOf fields code).elim [] fun f => escapeHtml (fieldWords f)

/-- The codes a template names, each once. -/
def codesOf (ps : List Piece) : List String :=
  (ps.filterMap fun p =>
    match p with
    | .char _ => none
    | .placeholder code => some code).dedup

/-- `sort()` of texts. -/
def sortTexts (texts : List String) : List String := texts.insertionSort fun a b => jsLe a b

/-! ## Paragraphs -/

/-- A match of `/\n\s*\n/` at the head of a text: the text after the last line
feed of the white space that follows the first one. -/
def blankLineAt : List Char → Option (List Char)
  | '\n' :: cs =>
    let space := cs.takeWhile jsWhitespace
    if space.contains '\n' then
      some ((space.reverse.takeWhile (· ≠ '\n')).reverse ++ cs.dropWhile jsWhitespace)
    else none
  | _ => none

/-- `split(/\n\s*\n/)`, with the current piece reversed in `acc`. -/
def splitParagraphs : Nat → List Char → List Char → List (List Char)
  | 0, acc, _ => [acc.reverse]
  | _ + 1, acc, [] => [acc.reverse]
  | fuel + 1, acc, c :: cs =>
    match blankLineAt (c :: cs) with
    | some rest => acc.reverse :: splitParagraphs fuel [] rest
    | none => splitParagraphs fuel (c :: acc) cs

/-- Paragraphs are separated by blank lines; each becomes a `<p>`. -/
def paragraphs (body : List Char) : List Char :=
  let parts := ((splitParagraphs (body.length + 1) [] body).map trim).filter fun p => !p.isEmpty
  ['\n'].intercalate (parts.map fun p =>
    "<p>".toList ++ p.flatMap (fun c => if c = '\n' then "<br>".toList else [c]) ++ "</p>".toList)

/-! ## Documents -/

structure RenderInput where
  title : String
  templateCode : String
  templateVersion : Int
  bodyTemplate : String
  approvalStatus : TemplateApprovalStatus
  source : String
  jurisdiction : String
  fields : List AssembledField
  packageVersionNo : Nat

inductive RenderOutcome where
  | rendered (html : String) (placeholders : List String)
  | unresolved (missing : List String)

/-- What a document says about its own template. -/
def approvalSentence (status : TemplateApprovalStatus) (source : String) : String :=
  match status with
  | .approved =>
    s!"Template approved for use in the stated jurisdiction. Source: {source}."
  | .withdrawn =>
    s!"TEMPLATE WITHDRAWN. This text was withdrawn from use and is rendered for the record only. Source: {source}."
  | .unapproved_sample =>
    s!"UNAPPROVED SAMPLE — NOT A JURISDICTIONALLY APPROVED FORM. This text has not been approved by an accountable person for use in the stated jurisdiction. Source: {source}."

def documentPage (input : RenderInput) (body : List Char) : List Char :=
  let title := escapeHtml input.title.toList
  "<!doctype html>\n<html lang=\"en\">\n<head>\n<meta charset=\"utf-8\">\n".toList ++
    "<title>".toList ++ title ++ "</title>\n</head>\n<body>\n".toList ++
    "<h1>".toList ++ title ++ "</h1>\n".toList ++
    "<p class=\"template\">Template ".toList ++ escapeHtml input.templateCode.toList ++
    " version ".toList ++ intText input.templateVersion ++
    " · Jurisdiction ".toList ++ escapeHtml input.jurisdiction.toList ++
    " · Package version ".toList ++ Nat.toDigits 10 input.packageVersionNo ++ "</p>\n".toList ++
    "<p class=\"approval\">".toList ++
    escapeHtml (approvalSentence input.approvalStatus input.source).toList ++ "</p>\n".toList ++
    paragraphs body ++ "\n</body>\n</html>\n".toList

def renderDocument (input : RenderInput) : RenderOutcome :=
  let ps := pieces (input.bodyTemplate.length + 1) input.bodyTemplate.toList
  match (codesOf ps).filter fun code => (fieldOf input.fields code).isNone with
  | [] => .rendered
      (String.ofList (documentPage input (ps.flatMap (pieceText input.fields))))
      (sortTexts (codesOf ps))
  | missing => .unresolved (sortTexts missing)

def RENDERED_MIME : String := "text/html; charset=utf-8"

end Dealership.Jacket
