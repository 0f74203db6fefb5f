import StudyGuide.Style
import StudyGuide.Text.Basic

/-!
The theme of a guide: the page, the fixed texts, and the style of every kind of block.
-/

set_option autoImplicit false
set_option relaxedAutoImplicit false

namespace StudyGuide

structure PageSetup where
  width : Length
  height : Length
  margin : Length
  /-- Distance of the footer's baseline from the lower edge. -/
  footerOffset : Length

namespace PageSetup

def a4 : PageSetup where
  width := 595.28
  height := 841.89
  margin := 45
  footerOffset := 30

def contentWidth (page : PageSetup) : Length := page.width - 2 * page.margin

/-- The cursor of an empty page. -/
def top (page : PageSetup) : Length := page.height - page.margin

def bottom (page : PageSetup) : Length := page.margin

end PageSetup

structure Theme where
  page : PageSetup
  /-- The line under the title, with `authorMark` where the author goes. -/
  subtitleTemplate : Text
  footer : Text
  contextCaption : Text
  challengeCaption : Text
  analogyPrefix : Text
  warningPrefix : Text
  /-- Stands in a document without blocks. -/
  placeholder : Text
  titleStyle : TextStyle
  subtitleStyle : TextStyle
  headerRule : Rgb
  footerStyle : TextStyle
  headingStyle : TextStyle
  headingSpaceBefore : Length
  headingSpaceAfter : Length
  contextFill : Rgb
  contextRule : Rgb
  contextCaptionStyle : TextStyle
  contextBodyStyle : TextStyle
  analogyStyle : TextStyle
  analogyRule : Rgb
  analogyIndent : Length
  challengeFill : Rgb
  challengeBorder : Rgb
  challengeCaptionStyle : TextStyle
  challengeBodyStyle : TextStyle
  warningStyle : TextStyle
  bodyStyle : TextStyle
  blockGap : Length
  boxPadding : Length

namespace Theme

def authorMark : Text := "\x7bauthor\x7d"

/-- The theme of a guide for which none was chosen. -/
def standard : Theme where
  page := .a4
  subtitleTemplate := "RUTA DE APRENDIZAJE • \x7bauthor\x7d"
  footer := "FormatZero — Neurociencia aplicada al estudio"
  contextCaption := "¿POR QUÉ IMPORTA ESTO?"
  challengeCaption := "RETO DE MEMORIA ACTIVA"
  analogyPrefix := "💡 Analogía:"
  warningPrefix := "⚠️"
  placeholder := "Sin contenido todavía."
  titleStyle := { size := 26, color := .ofCode 0x111827, bold := true, leading := 1.15 }
  subtitleStyle := { size := 8, color := .ofCode 0x9CA3AF }
  headerRule := .ofCode 0xE5E7EB
  footerStyle := { size := 8, color := .ofCode 0xD1D5DB, align := .center }
  headingStyle := { size := 13, color := .ofCode 0x4F46E5, bold := true }
  headingSpaceBefore := 25
  headingSpaceAfter := 12
  contextFill := .ofCode 0xF0F9FF
  contextRule := .ofCode 0x0EA5E9
  contextCaptionStyle := { size := 8, color := .ofCode 0x0369A1, bold := true }
  contextBodyStyle := { size := 10, color := .ofCode 0x0C4A6E }
  analogyStyle := { size := 10, color := .ofCode 0x6366F1, italic := true }
  analogyRule := .ofCode 0xE5E7EB
  analogyIndent := 10
  challengeFill := .ofCode 0xF5F3FF
  challengeBorder := .ofCode 0xC7D2FE
  challengeCaptionStyle := { size := 8, color := .ofCode 0x4338CA, bold := true }
  challengeBodyStyle := { size := 10, color := .ofCode 0x4338CA, bold := true }
  warningStyle :=
    { size := 10.5, color := .ofCode 0xB45309, bold := true, align := .justify, leading := 1.6 }
  bodyStyle := { size := 10.5, color := .ofCode 0x374151, align := .justify, leading := 1.6 }
  blockGap := 12
  boxPadding := 12

end Theme

end StudyGuide
