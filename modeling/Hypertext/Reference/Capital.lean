/-!
# Named references: capital initials

A named reference stands for one character, or for two. Names are written without the ampersand
and with their semicolon; some old names also occur without one. Here are the standard names that
begin with a capital letter.
-/

namespace Hypertext.Reference

/-- The characters that a name stands for. -/
abbrev Expansion := Char × Option Char

/-- Names with their expansions. -/
abbrev Names := List (String × Expansion)

/-- The characters of an expansion, in order. -/
def Expansion.chars (e : Expansion) : List Char :=
  e.1 :: e.2.toList

/-- The references whose names begin with `A`. -/
def capitalA : Names := [
  ("AElig", 'Æ', none), ("AElig;", 'Æ', none), ("AMP", '&', none), ("AMP;", '&', none),
  ("Aacute", 'Á', none), ("Aacute;", 'Á', none), ("Abreve;", 'Ă', none), ("Acirc", 'Â', none),
  ("Acirc;", 'Â', none), ("Acy;", 'А', none), ("Afr;", '𝔄', none), ("Agrave", 'À', none),
  ("Agrave;", 'À', none), ("Alpha;", 'Α', none), ("Amacr;", 'Ā', none), ("And;", '⩓', none),
  ("Aogon;", 'Ą', none), ("Aopf;", '𝔸', none), ("ApplyFunction;", '\u2061', none),
  ("Aring", 'Å', none), ("Aring;", 'Å', none), ("Ascr;", '𝒜', none), ("Assign;", '≔', none),
  ("Atilde", 'Ã', none), ("Atilde;", 'Ã', none), ("Auml", 'Ä', none), ("Auml;", 'Ä', none)]

/-- The references whose names begin with `B`. -/
def capitalB : Names := [
  ("Backslash;", '∖', none), ("Barv;", '⫧', none), ("Barwed;", '⌆', none), ("Bcy;", 'Б', none),
  ("Because;", '∵', none), ("Bernoullis;", 'ℬ', none), ("Beta;", 'Β', none), ("Bfr;", '𝔅', none),
  ("Bopf;", '𝔹', none), ("Breve;", '˘', none), ("Bscr;", 'ℬ', none), ("Bumpeq;", '≎', none)]

/-- The references whose names begin with `C`. -/
def capitalC : Names := [
  ("CHcy;", 'Ч', none), ("COPY", '©', none), ("COPY;", '©', none), ("Cacute;", 'Ć', none),
  ("Cap;", '⋒', none), ("CapitalDifferentialD;", 'ⅅ', none), ("Cayleys;", 'ℭ', none),
  ("Ccaron;", 'Č', none), ("Ccedil", 'Ç', none), ("Ccedil;", 'Ç', none), ("Ccirc;", 'Ĉ', none),
  ("Cconint;", '∰', none), ("Cdot;", 'Ċ', none), ("Cedilla;", '¸', none),
  ("CenterDot;", '·', none), ("Cfr;", 'ℭ', none), ("Chi;", 'Χ', none), ("CircleDot;", '⊙', none),
  ("CircleMinus;", '⊖', none), ("CirclePlus;", '⊕', none), ("CircleTimes;", '⊗', none),
  ("ClockwiseContourIntegral;", '∲', none), ("CloseCurlyDoubleQuote;", '”', none),
  ("CloseCurlyQuote;", '’', none), ("Colon;", '∷', none), ("Colone;", '⩴', none),
  ("Congruent;", '≡', none), ("Conint;", '∯', none), ("ContourIntegral;", '∮', none),
  ("Copf;", 'ℂ', none), ("Coproduct;", '∐', none), ("CounterClockwiseContourIntegral;", '∳', none),
  ("Cross;", '⨯', none), ("Cscr;", '𝒞', none), ("Cup;", '⋓', none), ("CupCap;", '≍', none)]

/-- The references whose names begin with `D`. -/
def capitalD : Names := [
  ("DD;", 'ⅅ', none), ("DDotrahd;", '⤑', none), ("DJcy;", 'Ђ', none), ("DScy;", 'Ѕ', none),
  ("DZcy;", 'Џ', none), ("Dagger;", '‡', none), ("Darr;", '↡', none), ("Dashv;", '⫤', none),
  ("Dcaron;", 'Ď', none), ("Dcy;", 'Д', none), ("Del;", '∇', none), ("Delta;", 'Δ', none),
  ("Dfr;", '𝔇', none), ("DiacriticalAcute;", '´', none), ("DiacriticalDot;", '˙', none),
  ("DiacriticalDoubleAcute;", '˝', none), ("DiacriticalGrave;", '\x60', none),
  ("DiacriticalTilde;", '˜', none), ("Diamond;", '⋄', none), ("DifferentialD;", 'ⅆ', none),
  ("Dopf;", '𝔻', none), ("Dot;", '¨', none), ("DotDot;", '\u20dc', none), ("DotEqual;", '≐', none),
  ("DoubleContourIntegral;", '∯', none), ("DoubleDot;", '¨', none),
  ("DoubleDownArrow;", '⇓', none), ("DoubleLeftArrow;", '⇐', none),
  ("DoubleLeftRightArrow;", '⇔', none), ("DoubleLeftTee;", '⫤', none),
  ("DoubleLongLeftArrow;", '⟸', none), ("DoubleLongLeftRightArrow;", '⟺', none),
  ("DoubleLongRightArrow;", '⟹', none), ("DoubleRightArrow;", '⇒', none),
  ("DoubleRightTee;", '⊨', none), ("DoubleUpArrow;", '⇑', none), ("DoubleUpDownArrow;", '⇕', none),
  ("DoubleVerticalBar;", '∥', none), ("DownArrow;", '↓', none), ("DownArrowBar;", '⤓', none),
  ("DownArrowUpArrow;", '⇵', none), ("DownBreve;", '\u0311', none),
  ("DownLeftRightVector;", '⥐', none), ("DownLeftTeeVector;", '⥞', none),
  ("DownLeftVector;", '↽', none), ("DownLeftVectorBar;", '⥖', none),
  ("DownRightTeeVector;", '⥟', none), ("DownRightVector;", '⇁', none),
  ("DownRightVectorBar;", '⥗', none), ("DownTee;", '⊤', none), ("DownTeeArrow;", '↧', none),
  ("Downarrow;", '⇓', none), ("Dscr;", '𝒟', none), ("Dstrok;", 'Đ', none)]

/-- The references whose names begin with `E`. -/
def capitalE : Names := [
  ("ENG;", 'Ŋ', none), ("ETH", 'Ð', none), ("ETH;", 'Ð', none), ("Eacute", 'É', none),
  ("Eacute;", 'É', none), ("Ecaron;", 'Ě', none), ("Ecirc", 'Ê', none), ("Ecirc;", 'Ê', none),
  ("Ecy;", 'Э', none), ("Edot;", 'Ė', none), ("Efr;", '𝔈', none), ("Egrave", 'È', none),
  ("Egrave;", 'È', none), ("Element;", '∈', none), ("Emacr;", 'Ē', none),
  ("EmptySmallSquare;", '◻', none), ("EmptyVerySmallSquare;", '▫', none), ("Eogon;", 'Ę', none),
  ("Eopf;", '𝔼', none), ("Epsilon;", 'Ε', none), ("Equal;", '⩵', none), ("EqualTilde;", '≂', none),
  ("Equilibrium;", '⇌', none), ("Escr;", 'ℰ', none), ("Esim;", '⩳', none), ("Eta;", 'Η', none),
  ("Euml", 'Ë', none), ("Euml;", 'Ë', none), ("Exists;", '∃', none), ("ExponentialE;", 'ⅇ', none)]

/-- The references whose names begin with `F`. -/
def capitalF : Names := [
  ("Fcy;", 'Ф', none), ("Ffr;", '𝔉', none), ("FilledSmallSquare;", '◼', none),
  ("FilledVerySmallSquare;", '▪', none), ("Fopf;", '𝔽', none), ("ForAll;", '∀', none),
  ("Fouriertrf;", 'ℱ', none), ("Fscr;", 'ℱ', none)]

/-- The references whose names begin with `G`. -/
def capitalG : Names := [
  ("GJcy;", 'Ѓ', none), ("GT", '>', none), ("GT;", '>', none), ("Gamma;", 'Γ', none),
  ("Gammad;", 'Ϝ', none), ("Gbreve;", 'Ğ', none), ("Gcedil;", 'Ģ', none), ("Gcirc;", 'Ĝ', none),
  ("Gcy;", 'Г', none), ("Gdot;", 'Ġ', none), ("Gfr;", '𝔊', none), ("Gg;", '⋙', none),
  ("Gopf;", '𝔾', none), ("GreaterEqual;", '≥', none), ("GreaterEqualLess;", '⋛', none),
  ("GreaterFullEqual;", '≧', none), ("GreaterGreater;", '⪢', none), ("GreaterLess;", '≷', none),
  ("GreaterSlantEqual;", '⩾', none), ("GreaterTilde;", '≳', none), ("Gscr;", '𝒢', none),
  ("Gt;", '≫', none)]

/-- The references whose names begin with `H`. -/
def capitalH : Names := [
  ("HARDcy;", 'Ъ', none), ("Hacek;", 'ˇ', none), ("Hat;", '^', none), ("Hcirc;", 'Ĥ', none),
  ("Hfr;", 'ℌ', none), ("HilbertSpace;", 'ℋ', none), ("Hopf;", 'ℍ', none),
  ("HorizontalLine;", '─', none), ("Hscr;", 'ℋ', none), ("Hstrok;", 'Ħ', none),
  ("HumpDownHump;", '≎', none), ("HumpEqual;", '≏', none)]

/-- The references whose names begin with `I`. -/
def capitalI : Names := [
  ("IEcy;", 'Е', none), ("IJlig;", 'Ĳ', none), ("IOcy;", 'Ё', none), ("Iacute", 'Í', none),
  ("Iacute;", 'Í', none), ("Icirc", 'Î', none), ("Icirc;", 'Î', none), ("Icy;", 'И', none),
  ("Idot;", 'İ', none), ("Ifr;", 'ℑ', none), ("Igrave", 'Ì', none), ("Igrave;", 'Ì', none),
  ("Im;", 'ℑ', none), ("Imacr;", 'Ī', none), ("ImaginaryI;", 'ⅈ', none), ("Implies;", '⇒', none),
  ("Int;", '∬', none), ("Integral;", '∫', none), ("Intersection;", '⋂', none),
  ("InvisibleComma;", '\u2063', none), ("InvisibleTimes;", '\u2062', none), ("Iogon;", 'Į', none),
  ("Iopf;", '𝕀', none), ("Iota;", 'Ι', none), ("Iscr;", 'ℐ', none), ("Itilde;", 'Ĩ', none),
  ("Iukcy;", 'І', none), ("Iuml", 'Ï', none), ("Iuml;", 'Ï', none)]

/-- The references whose names begin with `J`. -/
def capitalJ : Names := [
  ("Jcirc;", 'Ĵ', none), ("Jcy;", 'Й', none), ("Jfr;", '𝔍', none), ("Jopf;", '𝕁', none),
  ("Jscr;", '𝒥', none), ("Jsercy;", 'Ј', none), ("Jukcy;", 'Є', none)]

/-- The references whose names begin with `K`. -/
def capitalK : Names := [
  ("KHcy;", 'Х', none), ("KJcy;", 'Ќ', none), ("Kappa;", 'Κ', none), ("Kcedil;", 'Ķ', none),
  ("Kcy;", 'К', none), ("Kfr;", '𝔎', none), ("Kopf;", '𝕂', none), ("Kscr;", '𝒦', none)]

/-- The references whose names begin with `L`. -/
def capitalL : Names := [
  ("LJcy;", 'Љ', none), ("LT", '<', none), ("LT;", '<', none), ("Lacute;", 'Ĺ', none),
  ("Lambda;", 'Λ', none), ("Lang;", '⟪', none), ("Laplacetrf;", 'ℒ', none), ("Larr;", '↞', none),
  ("Lcaron;", 'Ľ', none), ("Lcedil;", 'Ļ', none), ("Lcy;", 'Л', none),
  ("LeftAngleBracket;", '⟨', none), ("LeftArrow;", '←', none), ("LeftArrowBar;", '⇤', none),
  ("LeftArrowRightArrow;", '⇆', none), ("LeftCeiling;", '⌈', none),
  ("LeftDoubleBracket;", '⟦', none), ("LeftDownTeeVector;", '⥡', none),
  ("LeftDownVector;", '⇃', none), ("LeftDownVectorBar;", '⥙', none), ("LeftFloor;", '⌊', none),
  ("LeftRightArrow;", '↔', none), ("LeftRightVector;", '⥎', none), ("LeftTee;", '⊣', none),
  ("LeftTeeArrow;", '↤', none), ("LeftTeeVector;", '⥚', none), ("LeftTriangle;", '⊲', none),
  ("LeftTriangleBar;", '⧏', none), ("LeftTriangleEqual;", '⊴', none),
  ("LeftUpDownVector;", '⥑', none), ("LeftUpTeeVector;", '⥠', none), ("LeftUpVector;", '↿', none),
  ("LeftUpVectorBar;", '⥘', none), ("LeftVector;", '↼', none), ("LeftVectorBar;", '⥒', none),
  ("Leftarrow;", '⇐', none), ("Leftrightarrow;", '⇔', none), ("LessEqualGreater;", '⋚', none),
  ("LessFullEqual;", '≦', none), ("LessGreater;", '≶', none), ("LessLess;", '⪡', none),
  ("LessSlantEqual;", '⩽', none), ("LessTilde;", '≲', none), ("Lfr;", '𝔏', none),
  ("Ll;", '⋘', none), ("Lleftarrow;", '⇚', none), ("Lmidot;", 'Ŀ', none),
  ("LongLeftArrow;", '⟵', none), ("LongLeftRightArrow;", '⟷', none),
  ("LongRightArrow;", '⟶', none), ("Longleftarrow;", '⟸', none),
  ("Longleftrightarrow;", '⟺', none), ("Longrightarrow;", '⟹', none), ("Lopf;", '𝕃', none),
  ("LowerLeftArrow;", '↙', none), ("LowerRightArrow;", '↘', none), ("Lscr;", 'ℒ', none),
  ("Lsh;", '↰', none), ("Lstrok;", 'Ł', none), ("Lt;", '≪', none)]

/-- The references whose names begin with `M`. -/
def capitalM : Names := [
  ("Map;", '⤅', none), ("Mcy;", 'М', none), ("MediumSpace;", '\u205f', none),
  ("Mellintrf;", 'ℳ', none), ("Mfr;", '𝔐', none), ("MinusPlus;", '∓', none), ("Mopf;", '𝕄', none),
  ("Mscr;", 'ℳ', none), ("Mu;", 'Μ', none)]

/-- The references whose names begin with `N`. -/
def capitalN : Names := [
  ("NJcy;", 'Њ', none), ("Nacute;", 'Ń', none), ("Ncaron;", 'Ň', none), ("Ncedil;", 'Ņ', none),
  ("Ncy;", 'Н', none), ("NegativeMediumSpace;", '\u200b', none),
  ("NegativeThickSpace;", '\u200b', none), ("NegativeThinSpace;", '\u200b', none),
  ("NegativeVeryThinSpace;", '\u200b', none), ("NestedGreaterGreater;", '≫', none),
  ("NestedLessLess;", '≪', none), ("NewLine;", '\n', none), ("Nfr;", '𝔑', none),
  ("NoBreak;", '\u2060', none), ("NonBreakingSpace;", '\u00a0', none), ("Nopf;", 'ℕ', none),
  ("Not;", '⫬', none), ("NotCongruent;", '≢', none), ("NotCupCap;", '≭', none),
  ("NotDoubleVerticalBar;", '∦', none), ("NotElement;", '∉', none), ("NotEqual;", '≠', none),
  ("NotEqualTilde;", '≂', some '\u0338'), ("NotExists;", '∄', none), ("NotGreater;", '≯', none),
  ("NotGreaterEqual;", '≱', none), ("NotGreaterFullEqual;", '≧', some '\u0338'),
  ("NotGreaterGreater;", '≫', some '\u0338'), ("NotGreaterLess;", '≹', none),
  ("NotGreaterSlantEqual;", '⩾', some '\u0338'), ("NotGreaterTilde;", '≵', none),
  ("NotHumpDownHump;", '≎', some '\u0338'), ("NotHumpEqual;", '≏', some '\u0338'),
  ("NotLeftTriangle;", '⋪', none), ("NotLeftTriangleBar;", '⧏', some '\u0338'),
  ("NotLeftTriangleEqual;", '⋬', none), ("NotLess;", '≮', none), ("NotLessEqual;", '≰', none),
  ("NotLessGreater;", '≸', none), ("NotLessLess;", '≪', some '\u0338'),
  ("NotLessSlantEqual;", '⩽', some '\u0338'), ("NotLessTilde;", '≴', none),
  ("NotNestedGreaterGreater;", '⪢', some '\u0338'), ("NotNestedLessLess;", '⪡', some '\u0338'),
  ("NotPrecedes;", '⊀', none), ("NotPrecedesEqual;", '⪯', some '\u0338'),
  ("NotPrecedesSlantEqual;", '⋠', none), ("NotReverseElement;", '∌', none),
  ("NotRightTriangle;", '⋫', none), ("NotRightTriangleBar;", '⧐', some '\u0338'),
  ("NotRightTriangleEqual;", '⋭', none), ("NotSquareSubset;", '⊏', some '\u0338'),
  ("NotSquareSubsetEqual;", '⋢', none), ("NotSquareSuperset;", '⊐', some '\u0338'),
  ("NotSquareSupersetEqual;", '⋣', none), ("NotSubset;", '⊂', some '\u20d2'),
  ("NotSubsetEqual;", '⊈', none), ("NotSucceeds;", '⊁', none),
  ("NotSucceedsEqual;", '⪰', some '\u0338'), ("NotSucceedsSlantEqual;", '⋡', none),
  ("NotSucceedsTilde;", '≿', some '\u0338'), ("NotSuperset;", '⊃', some '\u20d2'),
  ("NotSupersetEqual;", '⊉', none), ("NotTilde;", '≁', none), ("NotTildeEqual;", '≄', none),
  ("NotTildeFullEqual;", '≇', none), ("NotTildeTilde;", '≉', none), ("NotVerticalBar;", '∤', none),
  ("Nscr;", '𝒩', none), ("Ntilde", 'Ñ', none), ("Ntilde;", 'Ñ', none), ("Nu;", 'Ν', none)]

/-- The references whose names begin with `O`. -/
def capitalO : Names := [
  ("OElig;", 'Œ', none), ("Oacute", 'Ó', none), ("Oacute;", 'Ó', none), ("Ocirc", 'Ô', none),
  ("Ocirc;", 'Ô', none), ("Ocy;", 'О', none), ("Odblac;", 'Ő', none), ("Ofr;", '𝔒', none),
  ("Ograve", 'Ò', none), ("Ograve;", 'Ò', none), ("Omacr;", 'Ō', none), ("Omega;", 'Ω', none),
  ("Omicron;", 'Ο', none), ("Oopf;", '𝕆', none), ("OpenCurlyDoubleQuote;", '“', none),
  ("OpenCurlyQuote;", '‘', none), ("Or;", '⩔', none), ("Oscr;", '𝒪', none), ("Oslash", 'Ø', none),
  ("Oslash;", 'Ø', none), ("Otilde", 'Õ', none), ("Otilde;", 'Õ', none), ("Otimes;", '⨷', none),
  ("Ouml", 'Ö', none), ("Ouml;", 'Ö', none), ("OverBar;", '‾', none), ("OverBrace;", '⏞', none),
  ("OverBracket;", '⎴', none), ("OverParenthesis;", '⏜', none)]

/-- The references whose names begin with `P`. -/
def capitalP : Names := [
  ("PartialD;", '∂', none), ("Pcy;", 'П', none), ("Pfr;", '𝔓', none), ("Phi;", 'Φ', none),
  ("Pi;", 'Π', none), ("PlusMinus;", '±', none), ("Poincareplane;", 'ℌ', none),
  ("Popf;", 'ℙ', none), ("Pr;", '⪻', none), ("Precedes;", '≺', none),
  ("PrecedesEqual;", '⪯', none), ("PrecedesSlantEqual;", '≼', none), ("PrecedesTilde;", '≾', none),
  ("Prime;", '″', none), ("Product;", '∏', none), ("Proportion;", '∷', none),
  ("Proportional;", '∝', none), ("Pscr;", '𝒫', none), ("Psi;", 'Ψ', none)]

/-- The references whose names begin with `Q`. -/
def capitalQ : Names := [
  ("QUOT", '"', none), ("QUOT;", '"', none), ("Qfr;", '𝔔', none), ("Qopf;", 'ℚ', none),
  ("Qscr;", '𝒬', none)]

/-- The references whose names begin with `R`. -/
def capitalR : Names := [
  ("RBarr;", '⤐', none), ("REG", '®', none), ("REG;", '®', none), ("Racute;", 'Ŕ', none),
  ("Rang;", '⟫', none), ("Rarr;", '↠', none), ("Rarrtl;", '⤖', none), ("Rcaron;", 'Ř', none),
  ("Rcedil;", 'Ŗ', none), ("Rcy;", 'Р', none), ("Re;", 'ℜ', none), ("ReverseElement;", '∋', none),
  ("ReverseEquilibrium;", '⇋', none), ("ReverseUpEquilibrium;", '⥯', none), ("Rfr;", 'ℜ', none),
  ("Rho;", 'Ρ', none), ("RightAngleBracket;", '⟩', none), ("RightArrow;", '→', none),
  ("RightArrowBar;", '⇥', none), ("RightArrowLeftArrow;", '⇄', none), ("RightCeiling;", '⌉', none),
  ("RightDoubleBracket;", '⟧', none), ("RightDownTeeVector;", '⥝', none),
  ("RightDownVector;", '⇂', none), ("RightDownVectorBar;", '⥕', none), ("RightFloor;", '⌋', none),
  ("RightTee;", '⊢', none), ("RightTeeArrow;", '↦', none), ("RightTeeVector;", '⥛', none),
  ("RightTriangle;", '⊳', none), ("RightTriangleBar;", '⧐', none),
  ("RightTriangleEqual;", '⊵', none), ("RightUpDownVector;", '⥏', none),
  ("RightUpTeeVector;", '⥜', none), ("RightUpVector;", '↾', none),
  ("RightUpVectorBar;", '⥔', none), ("RightVector;", '⇀', none), ("RightVectorBar;", '⥓', none),
  ("Rightarrow;", '⇒', none), ("Ropf;", 'ℝ', none), ("RoundImplies;", '⥰', none),
  ("Rrightarrow;", '⇛', none), ("Rscr;", 'ℛ', none), ("Rsh;", '↱', none),
  ("RuleDelayed;", '⧴', none)]

/-- The references whose names begin with `S`. -/
def capitalS : Names := [
  ("SHCHcy;", 'Щ', none), ("SHcy;", 'Ш', none), ("SOFTcy;", 'Ь', none), ("Sacute;", 'Ś', none),
  ("Sc;", '⪼', none), ("Scaron;", 'Š', none), ("Scedil;", 'Ş', none), ("Scirc;", 'Ŝ', none),
  ("Scy;", 'С', none), ("Sfr;", '𝔖', none), ("ShortDownArrow;", '↓', none),
  ("ShortLeftArrow;", '←', none), ("ShortRightArrow;", '→', none), ("ShortUpArrow;", '↑', none),
  ("Sigma;", 'Σ', none), ("SmallCircle;", '∘', none), ("Sopf;", '𝕊', none), ("Sqrt;", '√', none),
  ("Square;", '□', none), ("SquareIntersection;", '⊓', none), ("SquareSubset;", '⊏', none),
  ("SquareSubsetEqual;", '⊑', none), ("SquareSuperset;", '⊐', none),
  ("SquareSupersetEqual;", '⊒', none), ("SquareUnion;", '⊔', none), ("Sscr;", '𝒮', none),
  ("Star;", '⋆', none), ("Sub;", '⋐', none), ("Subset;", '⋐', none), ("SubsetEqual;", '⊆', none),
  ("Succeeds;", '≻', none), ("SucceedsEqual;", '⪰', none), ("SucceedsSlantEqual;", '≽', none),
  ("SucceedsTilde;", '≿', none), ("SuchThat;", '∋', none), ("Sum;", '∑', none),
  ("Sup;", '⋑', none), ("Superset;", '⊃', none), ("SupersetEqual;", '⊇', none),
  ("Supset;", '⋑', none)]

/-- The references whose names begin with `T`. -/
def capitalT : Names := [
  ("THORN", 'Þ', none), ("THORN;", 'Þ', none), ("TRADE;", '™', none), ("TSHcy;", 'Ћ', none),
  ("TScy;", 'Ц', none), ("Tab;", '\t', none), ("Tau;", 'Τ', none), ("Tcaron;", 'Ť', none),
  ("Tcedil;", 'Ţ', none), ("Tcy;", 'Т', none), ("Tfr;", '𝔗', none), ("Therefore;", '∴', none),
  ("Theta;", 'Θ', none), ("ThickSpace;", '\u205f', some '\u200a'), ("ThinSpace;", '\u2009', none),
  ("Tilde;", '∼', none), ("TildeEqual;", '≃', none), ("TildeFullEqual;", '≅', none),
  ("TildeTilde;", '≈', none), ("Topf;", '𝕋', none), ("TripleDot;", '\u20db', none),
  ("Tscr;", '𝒯', none), ("Tstrok;", 'Ŧ', none)]

/-- The references whose names begin with `U`. -/
def capitalU : Names := [
  ("Uacute", 'Ú', none), ("Uacute;", 'Ú', none), ("Uarr;", '↟', none), ("Uarrocir;", '⥉', none),
  ("Ubrcy;", 'Ў', none), ("Ubreve;", 'Ŭ', none), ("Ucirc", 'Û', none), ("Ucirc;", 'Û', none),
  ("Ucy;", 'У', none), ("Udblac;", 'Ű', none), ("Ufr;", '𝔘', none), ("Ugrave", 'Ù', none),
  ("Ugrave;", 'Ù', none), ("Umacr;", 'Ū', none), ("UnderBar;", '_', none),
  ("UnderBrace;", '⏟', none), ("UnderBracket;", '⎵', none), ("UnderParenthesis;", '⏝', none),
  ("Union;", '⋃', none), ("UnionPlus;", '⊎', none), ("Uogon;", 'Ų', none), ("Uopf;", '𝕌', none),
  ("UpArrow;", '↑', none), ("UpArrowBar;", '⤒', none), ("UpArrowDownArrow;", '⇅', none),
  ("UpDownArrow;", '↕', none), ("UpEquilibrium;", '⥮', none), ("UpTee;", '⊥', none),
  ("UpTeeArrow;", '↥', none), ("Uparrow;", '⇑', none), ("Updownarrow;", '⇕', none),
  ("UpperLeftArrow;", '↖', none), ("UpperRightArrow;", '↗', none), ("Upsi;", 'ϒ', none),
  ("Upsilon;", 'Υ', none), ("Uring;", 'Ů', none), ("Uscr;", '𝒰', none), ("Utilde;", 'Ũ', none),
  ("Uuml", 'Ü', none), ("Uuml;", 'Ü', none)]

/-- The references whose names begin with `V`. -/
def capitalV : Names := [
  ("VDash;", '⊫', none), ("Vbar;", '⫫', none), ("Vcy;", 'В', none), ("Vdash;", '⊩', none),
  ("Vdashl;", '⫦', none), ("Vee;", '⋁', none), ("Verbar;", '‖', none), ("Vert;", '‖', none),
  ("VerticalBar;", '∣', none), ("VerticalLine;", '|', none), ("VerticalSeparator;", '❘', none),
  ("VerticalTilde;", '≀', none), ("VeryThinSpace;", '\u200a', none), ("Vfr;", '𝔙', none),
  ("Vopf;", '𝕍', none), ("Vscr;", '𝒱', none), ("Vvdash;", '⊪', none)]

/-- The references whose names begin with `W`. -/
def capitalW : Names := [
  ("Wcirc;", 'Ŵ', none), ("Wedge;", '⋀', none), ("Wfr;", '𝔚', none), ("Wopf;", '𝕎', none),
  ("Wscr;", '𝒲', none)]

/-- The references whose names begin with `X`. -/
def capitalX : Names := [
  ("Xfr;", '𝔛', none), ("Xi;", 'Ξ', none), ("Xopf;", '𝕏', none), ("Xscr;", '𝒳', none)]

/-- The references whose names begin with `Y`. -/
def capitalY : Names := [
  ("YAcy;", 'Я', none), ("YIcy;", 'Ї', none), ("YUcy;", 'Ю', none), ("Yacute", 'Ý', none),
  ("Yacute;", 'Ý', none), ("Ycirc;", 'Ŷ', none), ("Ycy;", 'Ы', none), ("Yfr;", '𝔜', none),
  ("Yopf;", '𝕐', none), ("Yscr;", '𝒴', none), ("Yuml;", 'Ÿ', none)]

/-- The references whose names begin with `Z`. -/
def capitalZ : Names := [
  ("ZHcy;", 'Ж', none), ("Zacute;", 'Ź', none), ("Zcaron;", 'Ž', none), ("Zcy;", 'З', none),
  ("Zdot;", 'Ż', none), ("ZeroWidthSpace;", '\u200b', none), ("Zeta;", 'Ζ', none),
  ("Zfr;", 'ℨ', none), ("Zopf;", 'ℤ', none), ("Zscr;", '𝒵', none)]

end Hypertext.Reference
