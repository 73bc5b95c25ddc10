/-
# The colour chart

A colour code names an index from 0 to 99.  The chart says which terminal colour each index stands
for: the first sixteen are the eight base colours, plain or bold, and the others are entries of the
256-colour palette.  A terminal that lets its palette be redefined gets exact amounts of red, green
and blue instead.
-/

namespace ChatConsole
namespace Color

/-- A terminal colour by number: one of the palette, or `defaultColor`. -/
abbrev ColorNumber := Int

def black : ColorNumber := 0
def red : ColorNumber := 1
def green : ColorNumber := 2
def yellow : ColorNumber := 3
def blue : ColorNumber := 4
def magenta : ColorNumber := 5
def cyan : ColorNumber := 6
def white : ColorNumber := 7

/-- The grey that stands for bold black on a redefinable palette. -/
def grey : ColorNumber := 244

/-- The grey that stands for white that is not bold on a redefinable palette. -/
def lightGrey : ColorNumber := 252

/-- The colour the terminal itself has chosen for the foreground or the background. -/
def defaultColor : ColorNumber := -1

/-- The eight base colours. -/
def baseColors : List ColorNumber :=
  [black, red, green, yellow, blue, magenta, cyan, white]

/-- What one index of the chart stands for. -/
structure ChartEntry where
  color : ColorNumber
  bold : Bool := false
  deriving DecidableEq, Repr

/-- The sixteen classic indices. -/
def classicEntries : List ChartEntry :=
  [
    ⟨white, true⟩, ⟨black, false⟩, ⟨blue, false⟩, ⟨green, false⟩,
    ⟨red, true⟩, ⟨red, false⟩, ⟨magenta, false⟩, ⟨yellow, false⟩,
    ⟨yellow, true⟩, ⟨green, true⟩, ⟨cyan, false⟩, ⟨cyan, true⟩,
    ⟨blue, true⟩, ⟨magenta, true⟩, ⟨black, true⟩, ⟨white, false⟩
  ]

/-- The palette entries of the indices 16 to 99, in rows of twelve; the last is the default
colour. -/
def extendedNumbers : List ColorNumber :=
  [
    52, 94, 100, 58, 22, 29, 23, 24, 17, 54, 53, 89,
    88, 130, 142, 64, 28, 35, 30, 25, 18, 91, 90, 125,
    124, 166, 184, 106, 34, 49, 37, 33, 19, 129, 127, 161,
    196, 208, 226, 154, 46, 86, 51, 75, 21, 171, 201, 198,
    203, 215, 227, 191, 83, 122, 87, 111, 63, 177, 207, 205,
    217, 223, 229, 193, 157, 158, 159, 153, 147, 183, 219, 212,
    16, 233, 235, 237, 239, 241, 244, 247, 250, 254, 231, -1
  ]

/-- The whole chart, a hundred entries. -/
def chart : List ChartEntry :=
  classicEntries ++ extendedNumbers.map (⟨·, false⟩)

/-- Amounts of red, green and blue, in thousandths, of the palette entries that are redefined. -/
def redefined : List (ColorNumber × Nat × Nat × Nat) :=
  [
    (52, 278, 0, 0), (94, 278, 129, 0), (100, 278, 278, 0), (58, 196, 278, 0), (22, 0, 278, 0),
    (29, 0, 278, 173), (23, 0, 278, 278), (24, 0, 153, 278), (17, 0, 0, 278), (54, 180, 0, 278),
    (53, 278, 0, 278), (89, 278, 0, 165), (88, 455, 0, 0), (130, 455, 227, 0), (142, 455, 455, 0),
    (64, 318, 455, 0), (28, 0, 455, 0), (35, 0, 455, 286), (30, 0, 455, 455), (25, 0, 251, 455),
    (18, 0, 0, 455), (91, 294, 0, 455), (90, 455, 0, 455), (125, 455, 0, 271), (124, 710, 0, 0),
    (166, 710, 388, 0), (184, 710, 710, 0), (106, 490, 710, 0), (34, 0, 710, 0),
    (49, 0, 710, 443), (37, 0, 710, 710), (33, 0, 388, 710), (19, 0, 0, 710), (129, 459, 0, 710),
    (127, 710, 0, 710), (161, 710, 0, 420), (196, 1000, 0, 0), (208, 1000, 549, 0),
    (226, 1000, 1000, 0), (154, 698, 1000, 0), (46, 0, 1000, 0), (86, 0, 1000, 627),
    (51, 0, 1000, 1000), (75, 0, 549, 1000), (21, 0, 0, 1000), (171, 647, 0, 1000),
    (201, 1000, 0, 1000), (198, 1000, 0, 596), (203, 1000, 349, 349), (215, 1000, 706, 349),
    (227, 1000, 1000, 443), (191, 812, 1000, 376), (83, 435, 1000, 435), (122, 396, 1000, 788),
    (87, 427, 1000, 1000), (111, 349, 706, 1000), (63, 349, 349, 1000), (177, 769, 349, 1000),
    (207, 1000, 400, 1000), (205, 1000, 349, 737), (217, 1000, 612, 612), (223, 1000, 827, 612),
    (229, 1000, 1000, 612), (193, 886, 1000, 612), (157, 612, 1000, 612), (158, 612, 1000, 859),
    (159, 612, 1000, 1000), (153, 612, 827, 1000), (147, 612, 612, 1000), (183, 863, 612, 1000),
    (219, 1000, 612, 1000), (212, 1000, 580, 827), (16, 0, 0, 0), (233, 75, 75, 75),
    (235, 157, 157, 157), (237, 212, 212, 212), (239, 302, 302, 302), (241, 396, 396, 396),
    (244, 506, 506, 506), (247, 624, 624, 624), (250, 737, 737, 737), (254, 886, 886, 886),
    (231, 1000, 1000, 1000), (252, 824, 824, 824)
  ]

/-- An amount in thousandths as a byte, to the nearest. -/
def byteOfThousandths (v : Nat) : Nat :=
  (v * 255 + 500) / 1000

end Color
end ChatConsole
