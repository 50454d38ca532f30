/-!
Colours and styles of screen tiles, and the colours of the panes. A style may leave a colour
unset; the terminal's own colour then shows.
-/

namespace Playfield.Screen

inductive Color where
  | black
  | rgb (red green blue : UInt8)
  deriving DecidableEq

structure Style where
  foreground : Option Color
  background : Option Color
  bold : Bool
  deriving DecidableEq

namespace Style

def plain : Style := ⟨none, none, false⟩

def ink (color : Color) : Style := ⟨some color, none, false⟩

def paper (color : Color) : Style := ⟨none, some color, false⟩

def on (style : Style) (color : Color) : Style := { style with background := some color }

def inBold (style : Style) : Style := { style with bold := true }

end Style

/-! The colours of the panes. -/

namespace Theme

def text : Color := .rgb 205 214 244
def primary : Color := .rgb 137 180 250
def secondary : Color := .rgb 250 179 135
def comment : Color := .rgb 108 112 134
def success : Color := .rgb 166 227 161
def error : Color := .rgb 243 139 168
def number : Color := .rgb 250 179 135
def focusedBorder : Color := .rgb 249 226 175
def normalBorder : Color := .rgb 108 112 134
def bar : Color := .rgb 50 50 70
def breakpoint : Color := .rgb 243 139 168
def cursor : Color := .rgb 137 180 250
def programCounter : Color := .rgb 249 226 175

end Theme

end Playfield.Screen
