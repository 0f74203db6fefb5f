import StudyGuide.Bytes
import StudyGuide.Decimal
import StudyGuide.GuideError
import StudyGuide.Operator
import StudyGuide.Pagination

/-!
Guides as PDF files. A file is a list of numbered objects, then a table of the places where they
begin, then the number of the object that stands for the document. Everything in it is ASCII:
texts are written in hexadecimal digits.
-/

set_option autoImplicit false
set_option relaxedAutoImplicit false

namespace StudyGuide

namespace Pdf

/-! ### Values -/

def number (value : Float32) : Text := Decimal.plain32 value

/-- A number in hexadecimal digits, at least `width` of them. -/
def hexadecimal (width value : Nat) : Text := (Nat.toDigits 16 value).leftpad width '0'

/-- Bytes as a string object. -/
def hexString (bytes : List UInt8) : Text :=
  '<' :: bytes.flatMap (fun byte ↦ hexadecimal 2 byte.toNat) ++ ['>']

/-- A text of drawable characters as a string object, two bytes a character after a mark that
says so. -/
def textString (text : Text) : Text :=
  "<FEFF" ++ text.flatMap (fun c ↦ hexadecimal 4 c.toNat) ++ ['>']

def name (text : Text) : Text := '/' :: text

def array (items : List Text) : Text := '[' :: Text.joinWith [' '] items ++ [']']

def dictionary (entries : List (Text × Text)) : Text :=
  "<< " ++ Text.joinWith [' '] (entries.map fun (key, value) ↦ name key ++ ' ' :: value) ++ " >>"

/-- A number that stands for the object of that number. -/
def reference (object : Nat) : Text := Text.ofNat object ++ " 0 R"

def stream (content : Text) : Text :=
  dictionary [("Length", Text.ofNat content.length)] ++ "\nstream\n" ++ content ++ "\nendstream"

/-! ### Drawing -/

def operands (values : List Float32) (operator : Text) : Text :=
  Text.joinWith [' '] (values.map number ++ [operator])

def operator : Operator → Text
  | .fillColor red green blue => operands [red, green, blue] "rg"
  | .strokeColor red green blue => operands [red, green, blue] "RG"
  | .lineWidth width => operands [width] "w"
  | .rectangle left lower width height => operands [left, lower, width, height] "re"
  | .fill => "f"
  | .stroke => "S"
  | .dash true => "[4 3] 0 d"
  | .dash false => "[] 0 d"
  | .text face size x baseline bytes =>
    "BT " ++ name face.name ++ ' ' :: operands [size] "Tf " ++ operands [x, baseline] "Td " ++
      hexString bytes ++ " Tj ET"

/-- What draws a page: its shapes, then its text before them. -/
def content (page : Page) : Text :=
  Text.joinLines ((page.shapeOperators ++ page.textOperators).map operator)

/-! ### Objects -/

def catalogNumber : Nat := 1

def pageTreeNumber : Nat := 2

def infoNumber : Nat := 3

def firstFontNumber : Nat := 4

def firstPageNumber : Nat := firstFontNumber + Font.Face.all.length

/-- Each page is two objects, its description and what draws it. -/
def pageNumber (index : Nat) : Nat := firstPageNumber + 2 * index

def catalog : Text :=
  dictionary [("Type", name "Catalog"), ("Pages", reference pageTreeNumber)]

def pageTree (count : Nat) : Text :=
  dictionary [
    ("Type", name "Pages"),
    ("Kids", array ((List.range count).map fun index ↦ reference (pageNumber index))),
    ("Count", Text.ofNat count)]

def info (title : Text) : Text := dictionary [("Title", textString title)]

def font (face : Font.Face) : Text :=
  dictionary [
    ("Type", name "Font"), ("Subtype", name "Type1"), ("BaseFont", name face.name),
    ("Encoding", name "WinAnsiEncoding")]

/-- Every page may use every font. -/
def resources : Text :=
  dictionary [("Font",
    dictionary (Font.Face.all.zipIdx.map fun (face, index) ↦
      (face.name, reference (firstFontNumber + index))))]

def pageObject (setup : PageSetup) (number : Nat) : Text :=
  dictionary [
    ("Type", name "Page"), ("Parent", reference pageTreeNumber),
    ("MediaBox", array [['0'], ['0'], Pdf.number setup.width.onPage,
      Pdf.number setup.height.onPage]),
    ("Resources", resources), ("Contents", reference (number + 1))]

def pageObjects (setup : PageSetup) (index : Nat) (page : Page) : List Text :=
  [pageObject setup (pageNumber index), stream (content page)]

/-- The objects of a file, in the order of their numbers from one on. -/
def objects (title : Text) (setup : PageSetup) (pages : List Page) : List Text :=
  [catalog, pageTree pages.length, info title] ++ Font.Face.all.map font ++
    pages.zipIdx.flatMap fun (page, index) ↦ pageObjects setup index page

/-! ### Files -/

def header : Text := "%PDF-1.4\n"

def numbered (number : Nat) (object : Text) : Text :=
  Text.ofNat number ++ " 0 obj\n" ++ object ++ "\nendobj\n"

/-- Where texts begin that follow one another from `start` on. -/
def offsets (start : Nat) : List Text → List Nat
  | [] => []
  | text :: rest => start :: offsets (start + text.length) rest

/-- A line of the table; every line has the same length. -/
def tableLine (generation : Text) (kind : Char) (offset : Nat) : Text :=
  (Text.ofNat offset).leftpad 10 '0' ++ ' ' :: generation ++ ' ' :: kind :: [' ', '\n']

/-- The table of places, which begins with a line for the free number zero. -/
def table (places : List Nat) : Text :=
  "xref\n0 " ++ Text.ofNat (places.length + 1) ++ '\n' :: tableLine "65535" 'f' 0 ++
    places.flatMap (tableLine "00000" 'n')

def trailer (count tablePlace : Nat) : Text :=
  "trailer\n" ++
    dictionary [
      ("Size", Text.ofNat (count + 1)), ("Root", reference catalogNumber),
      ("Info", reference infoNumber)] ++
    "\nstartxref\n" ++ Text.ofNat tablePlace ++ "\n%%EOF\n"

def file (objects : List Text) : Text :=
  let body := objects.zipIdx.map fun (object, index) ↦ numbered (index + 1) object
  let start := header ++ body.flatten
  start ++ table (offsets header.length body) ++ trailer objects.length start.length

end Pdf

/-- A guide as a file, and the number of its pages. -/
structure Rendered where
  bytes : Bytes
  pageCount : Nat
deriving DecidableEq, Repr

/-- What makes a file of a layout. -/
abbrev Renderer := Layout → Except GuideError Rendered

/-- Draws a layout; the title of the file is the title of the guide in drawable characters. -/
def Layout.toPdf (layout : Layout) : Rendered :=
  let flow := layout.flow
  { bytes :=
      .ofText (Pdf.file (Pdf.objects (Font.drawable layout.header.title) layout.page flow.pages))
    pageCount := flow.pageNumber }

/-- Drawing itself never fails. -/
def Renderer.standard : Renderer := fun layout ↦ .ok layout.toPdf

end StudyGuide
