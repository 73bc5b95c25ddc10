/-
# The pen

A pen holds the decoration in force while decorated text is read: four switches and a shade.  The
style of a glyph is the style of the pen that draws it.  Blinking is remembered and never drawn.
-/

import ChatConsole.Markup.Token
import ChatConsole.Color.Palette
import ChatConsole.Grid.Basic

namespace ChatConsole
namespace Markup

/-- The decoration in force. -/
structure Pen where
  blink : Bool := false
  bold : Bool := false
  reverse : Bool := false
  underline : Bool := false
  shade : Option Color.Shade := none
  deriving DecidableEq, Repr

namespace Pen

/-- Turn a decoration on, or off when it is on. -/
def toggle (p : Pen) : Switch → Pen
  | .blink => { p with blink := !p.blink }
  | .bold => { p with bold := !p.bold }
  | .reverse => { p with reverse := !p.reverse }
  | .underline => { p with underline := !p.underline }

/-- The style of the glyphs drawn by the pen.  A shade may make them bold. -/
def style (p : Pen) : Style where
  bold := p.bold || p.shade.any Color.Shade.bold
  underline := p.underline
  reverse := p.reverse
  pair := (p.shade.map Color.Shade.pair).getD 0

/-- The pen after a token, and the palette after it: a colour code may register a pair. -/
def read (p : Pen) (palette : Color.Palette) : Token → Pen × Color.Palette
  | .toggle s => (p.toggle s, palette)
  | .plain => ({}, palette)
  | .color code =>
    let (shade, palette) := palette.resolve code
    ({ p with shade }, palette)
  | .glyph _ => (p, palette)

end Pen
end Markup
end ChatConsole
