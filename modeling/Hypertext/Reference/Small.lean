import Hypertext.Reference.Capital

/-!
# Named references: small initials

The standard names that begin with a small letter, each with its one or two characters.
-/

namespace Hypertext.Reference

/-- The references whose names begin with `a`. -/
def smallA : Names := [
  ("aacute", 'á', none), ("aacute;", 'á', none), ("abreve;", 'ă', none), ("ac;", '∾', none),
  ("acE;", '∾', some '\u0333'), ("acd;", '∿', none), ("acirc", 'â', none), ("acirc;", 'â', none),
  ("acute", '´', none), ("acute;", '´', none), ("acy;", 'а', none), ("aelig", 'æ', none),
  ("aelig;", 'æ', none), ("af;", '\u2061', none), ("afr;", '𝔞', none), ("agrave", 'à', none),
  ("agrave;", 'à', none), ("alefsym;", 'ℵ', none), ("aleph;", 'ℵ', none), ("alpha;", 'α', none),
  ("amacr;", 'ā', none), ("amalg;", '⨿', none), ("amp", '&', none), ("amp;", '&', none),
  ("and;", '∧', none), ("andand;", '⩕', none), ("andd;", '⩜', none), ("andslope;", '⩘', none),
  ("andv;", '⩚', none), ("ang;", '∠', none), ("ange;", '⦤', none), ("angle;", '∠', none),
  ("angmsd;", '∡', none), ("angmsdaa;", '⦨', none), ("angmsdab;", '⦩', none),
  ("angmsdac;", '⦪', none), ("angmsdad;", '⦫', none), ("angmsdae;", '⦬', none),
  ("angmsdaf;", '⦭', none), ("angmsdag;", '⦮', none), ("angmsdah;", '⦯', none),
  ("angrt;", '∟', none), ("angrtvb;", '⊾', none), ("angrtvbd;", '⦝', none), ("angsph;", '∢', none),
  ("angst;", 'Å', none), ("angzarr;", '⍼', none), ("aogon;", 'ą', none), ("aopf;", '𝕒', none),
  ("ap;", '≈', none), ("apE;", '⩰', none), ("apacir;", '⩯', none), ("ape;", '≊', none),
  ("apid;", '≋', none), ("apos;", '\'', none), ("approx;", '≈', none), ("approxeq;", '≊', none),
  ("aring", 'å', none), ("aring;", 'å', none), ("ascr;", '𝒶', none), ("ast;", '*', none),
  ("asymp;", '≈', none), ("asympeq;", '≍', none), ("atilde", 'ã', none), ("atilde;", 'ã', none),
  ("auml", 'ä', none), ("auml;", 'ä', none), ("awconint;", '∳', none), ("awint;", '⨑', none)]

/-- The references whose names begin with `b`. -/
def smallB : Names := [
  ("bNot;", '⫭', none), ("backcong;", '≌', none), ("backepsilon;", '϶', none),
  ("backprime;", '‵', none), ("backsim;", '∽', none), ("backsimeq;", '⋍', none),
  ("barvee;", '⊽', none), ("barwed;", '⌅', none), ("barwedge;", '⌅', none), ("bbrk;", '⎵', none),
  ("bbrktbrk;", '⎶', none), ("bcong;", '≌', none), ("bcy;", 'б', none), ("bdquo;", '„', none),
  ("becaus;", '∵', none), ("because;", '∵', none), ("bemptyv;", '⦰', none), ("bepsi;", '϶', none),
  ("bernou;", 'ℬ', none), ("beta;", 'β', none), ("beth;", 'ℶ', none), ("between;", '≬', none),
  ("bfr;", '𝔟', none), ("bigcap;", '⋂', none), ("bigcirc;", '◯', none), ("bigcup;", '⋃', none),
  ("bigodot;", '⨀', none), ("bigoplus;", '⨁', none), ("bigotimes;", '⨂', none),
  ("bigsqcup;", '⨆', none), ("bigstar;", '★', none), ("bigtriangledown;", '▽', none),
  ("bigtriangleup;", '△', none), ("biguplus;", '⨄', none), ("bigvee;", '⋁', none),
  ("bigwedge;", '⋀', none), ("bkarow;", '⤍', none), ("blacklozenge;", '⧫', none),
  ("blacksquare;", '▪', none), ("blacktriangle;", '▴', none), ("blacktriangledown;", '▾', none),
  ("blacktriangleleft;", '◂', none), ("blacktriangleright;", '▸', none), ("blank;", '␣', none),
  ("blk12;", '▒', none), ("blk14;", '░', none), ("blk34;", '▓', none), ("block;", '█', none),
  ("bne;", '=', some '\u20e5'), ("bnequiv;", '≡', some '\u20e5'), ("bnot;", '⌐', none),
  ("bopf;", '𝕓', none), ("bot;", '⊥', none), ("bottom;", '⊥', none), ("bowtie;", '⋈', none),
  ("boxDL;", '╗', none), ("boxDR;", '╔', none), ("boxDl;", '╖', none), ("boxDr;", '╓', none),
  ("boxH;", '═', none), ("boxHD;", '╦', none), ("boxHU;", '╩', none), ("boxHd;", '╤', none),
  ("boxHu;", '╧', none), ("boxUL;", '╝', none), ("boxUR;", '╚', none), ("boxUl;", '╜', none),
  ("boxUr;", '╙', none), ("boxV;", '║', none), ("boxVH;", '╬', none), ("boxVL;", '╣', none),
  ("boxVR;", '╠', none), ("boxVh;", '╫', none), ("boxVl;", '╢', none), ("boxVr;", '╟', none),
  ("boxbox;", '⧉', none), ("boxdL;", '╕', none), ("boxdR;", '╒', none), ("boxdl;", '┐', none),
  ("boxdr;", '┌', none), ("boxh;", '─', none), ("boxhD;", '╥', none), ("boxhU;", '╨', none),
  ("boxhd;", '┬', none), ("boxhu;", '┴', none), ("boxminus;", '⊟', none), ("boxplus;", '⊞', none),
  ("boxtimes;", '⊠', none), ("boxuL;", '╛', none), ("boxuR;", '╘', none), ("boxul;", '┘', none),
  ("boxur;", '└', none), ("boxv;", '│', none), ("boxvH;", '╪', none), ("boxvL;", '╡', none),
  ("boxvR;", '╞', none), ("boxvh;", '┼', none), ("boxvl;", '┤', none), ("boxvr;", '├', none),
  ("bprime;", '‵', none), ("breve;", '˘', none), ("brvbar", '¦', none), ("brvbar;", '¦', none),
  ("bscr;", '𝒷', none), ("bsemi;", '⁏', none), ("bsim;", '∽', none), ("bsime;", '⋍', none),
  ("bsol;", '\\', none), ("bsolb;", '⧅', none), ("bsolhsub;", '⟈', none), ("bull;", '•', none),
  ("bullet;", '•', none), ("bump;", '≎', none), ("bumpE;", '⪮', none), ("bumpe;", '≏', none),
  ("bumpeq;", '≏', none)]

/-- The references whose names begin with `c`. -/
def smallC : Names := [
  ("cacute;", 'ć', none), ("cap;", '∩', none), ("capand;", '⩄', none), ("capbrcup;", '⩉', none),
  ("capcap;", '⩋', none), ("capcup;", '⩇', none), ("capdot;", '⩀', none),
  ("caps;", '∩', some '\ufe00'), ("caret;", '⁁', none), ("caron;", 'ˇ', none),
  ("ccaps;", '⩍', none), ("ccaron;", 'č', none), ("ccedil", 'ç', none), ("ccedil;", 'ç', none),
  ("ccirc;", 'ĉ', none), ("ccups;", '⩌', none), ("ccupssm;", '⩐', none), ("cdot;", 'ċ', none),
  ("cedil", '¸', none), ("cedil;", '¸', none), ("cemptyv;", '⦲', none), ("cent", '¢', none),
  ("cent;", '¢', none), ("centerdot;", '·', none), ("cfr;", '𝔠', none), ("chcy;", 'ч', none),
  ("check;", '✓', none), ("checkmark;", '✓', none), ("chi;", 'χ', none), ("cir;", '○', none),
  ("cirE;", '⧃', none), ("circ;", 'ˆ', none), ("circeq;", '≗', none),
  ("circlearrowleft;", '↺', none), ("circlearrowright;", '↻', none), ("circledR;", '®', none),
  ("circledS;", 'Ⓢ', none), ("circledast;", '⊛', none), ("circledcirc;", '⊚', none),
  ("circleddash;", '⊝', none), ("cire;", '≗', none), ("cirfnint;", '⨐', none),
  ("cirmid;", '⫯', none), ("cirscir;", '⧂', none), ("clubs;", '♣', none), ("clubsuit;", '♣', none),
  ("colon;", ':', none), ("colone;", '≔', none), ("coloneq;", '≔', none), ("comma;", ',', none),
  ("commat;", '@', none), ("comp;", '∁', none), ("compfn;", '∘', none), ("complement;", '∁', none),
  ("complexes;", 'ℂ', none), ("cong;", '≅', none), ("congdot;", '⩭', none), ("conint;", '∮', none),
  ("copf;", '𝕔', none), ("coprod;", '∐', none), ("copy", '©', none), ("copy;", '©', none),
  ("copysr;", '℗', none), ("crarr;", '↵', none), ("cross;", '✗', none), ("cscr;", '𝒸', none),
  ("csub;", '⫏', none), ("csube;", '⫑', none), ("csup;", '⫐', none), ("csupe;", '⫒', none),
  ("ctdot;", '⋯', none), ("cudarrl;", '⤸', none), ("cudarrr;", '⤵', none), ("cuepr;", '⋞', none),
  ("cuesc;", '⋟', none), ("cularr;", '↶', none), ("cularrp;", '⤽', none), ("cup;", '∪', none),
  ("cupbrcap;", '⩈', none), ("cupcap;", '⩆', none), ("cupcup;", '⩊', none), ("cupdot;", '⊍', none),
  ("cupor;", '⩅', none), ("cups;", '∪', some '\ufe00'), ("curarr;", '↷', none),
  ("curarrm;", '⤼', none), ("curlyeqprec;", '⋞', none), ("curlyeqsucc;", '⋟', none),
  ("curlyvee;", '⋎', none), ("curlywedge;", '⋏', none), ("curren", '¤', none),
  ("curren;", '¤', none), ("curvearrowleft;", '↶', none), ("curvearrowright;", '↷', none),
  ("cuvee;", '⋎', none), ("cuwed;", '⋏', none), ("cwconint;", '∲', none), ("cwint;", '∱', none),
  ("cylcty;", '⌭', none)]

/-- The references whose names begin with `d`. -/
def smallD : Names := [
  ("dArr;", '⇓', none), ("dHar;", '⥥', none), ("dagger;", '†', none), ("daleth;", 'ℸ', none),
  ("darr;", '↓', none), ("dash;", '‐', none), ("dashv;", '⊣', none), ("dbkarow;", '⤏', none),
  ("dblac;", '˝', none), ("dcaron;", 'ď', none), ("dcy;", 'д', none), ("dd;", 'ⅆ', none),
  ("ddagger;", '‡', none), ("ddarr;", '⇊', none), ("ddotseq;", '⩷', none), ("deg", '°', none),
  ("deg;", '°', none), ("delta;", 'δ', none), ("demptyv;", '⦱', none), ("dfisht;", '⥿', none),
  ("dfr;", '𝔡', none), ("dharl;", '⇃', none), ("dharr;", '⇂', none), ("diam;", '⋄', none),
  ("diamond;", '⋄', none), ("diamondsuit;", '♦', none), ("diams;", '♦', none), ("die;", '¨', none),
  ("digamma;", 'ϝ', none), ("disin;", '⋲', none), ("div;", '÷', none), ("divide", '÷', none),
  ("divide;", '÷', none), ("divideontimes;", '⋇', none), ("divonx;", '⋇', none),
  ("djcy;", 'ђ', none), ("dlcorn;", '⌞', none), ("dlcrop;", '⌍', none), ("dollar;", '$', none),
  ("dopf;", '𝕕', none), ("dot;", '˙', none), ("doteq;", '≐', none), ("doteqdot;", '≑', none),
  ("dotminus;", '∸', none), ("dotplus;", '∔', none), ("dotsquare;", '⊡', none),
  ("doublebarwedge;", '⌆', none), ("downarrow;", '↓', none), ("downdownarrows;", '⇊', none),
  ("downharpoonleft;", '⇃', none), ("downharpoonright;", '⇂', none), ("drbkarow;", '⤐', none),
  ("drcorn;", '⌟', none), ("drcrop;", '⌌', none), ("dscr;", '𝒹', none), ("dscy;", 'ѕ', none),
  ("dsol;", '⧶', none), ("dstrok;", 'đ', none), ("dtdot;", '⋱', none), ("dtri;", '▿', none),
  ("dtrif;", '▾', none), ("duarr;", '⇵', none), ("duhar;", '⥯', none), ("dwangle;", '⦦', none),
  ("dzcy;", 'џ', none), ("dzigrarr;", '⟿', none)]

/-- The references whose names begin with `e`. -/
def smallE : Names := [
  ("eDDot;", '⩷', none), ("eDot;", '≑', none), ("eacute", 'é', none), ("eacute;", 'é', none),
  ("easter;", '⩮', none), ("ecaron;", 'ě', none), ("ecir;", '≖', none), ("ecirc", 'ê', none),
  ("ecirc;", 'ê', none), ("ecolon;", '≕', none), ("ecy;", 'э', none), ("edot;", 'ė', none),
  ("ee;", 'ⅇ', none), ("efDot;", '≒', none), ("efr;", '𝔢', none), ("eg;", '⪚', none),
  ("egrave", 'è', none), ("egrave;", 'è', none), ("egs;", '⪖', none), ("egsdot;", '⪘', none),
  ("el;", '⪙', none), ("elinters;", '⏧', none), ("ell;", 'ℓ', none), ("els;", '⪕', none),
  ("elsdot;", '⪗', none), ("emacr;", 'ē', none), ("empty;", '∅', none), ("emptyset;", '∅', none),
  ("emptyv;", '∅', none), ("emsp13;", '\u2004', none), ("emsp14;", '\u2005', none),
  ("emsp;", '\u2003', none), ("eng;", 'ŋ', none), ("ensp;", '\u2002', none), ("eogon;", 'ę', none),
  ("eopf;", '𝕖', none), ("epar;", '⋕', none), ("eparsl;", '⧣', none), ("eplus;", '⩱', none),
  ("epsi;", 'ε', none), ("epsilon;", 'ε', none), ("epsiv;", 'ϵ', none), ("eqcirc;", '≖', none),
  ("eqcolon;", '≕', none), ("eqsim;", '≂', none), ("eqslantgtr;", '⪖', none),
  ("eqslantless;", '⪕', none), ("equals;", '=', none), ("equest;", '≟', none),
  ("equiv;", '≡', none), ("equivDD;", '⩸', none), ("eqvparsl;", '⧥', none), ("erDot;", '≓', none),
  ("erarr;", '⥱', none), ("escr;", 'ℯ', none), ("esdot;", '≐', none), ("esim;", '≂', none),
  ("eta;", 'η', none), ("eth", 'ð', none), ("eth;", 'ð', none), ("euml", 'ë', none),
  ("euml;", 'ë', none), ("euro;", '€', none), ("excl;", '!', none), ("exist;", '∃', none),
  ("expectation;", 'ℰ', none), ("exponentiale;", 'ⅇ', none)]

/-- The references whose names begin with `f`. -/
def smallF : Names := [
  ("fallingdotseq;", '≒', none), ("fcy;", 'ф', none), ("female;", '♀', none),
  ("ffilig;", 'ﬃ', none), ("fflig;", 'ﬀ', none), ("ffllig;", 'ﬄ', none), ("ffr;", '𝔣', none),
  ("filig;", 'ﬁ', none), ("fjlig;", 'f', some 'j'), ("flat;", '♭', none), ("fllig;", 'ﬂ', none),
  ("fltns;", '▱', none), ("fnof;", 'ƒ', none), ("fopf;", '𝕗', none), ("forall;", '∀', none),
  ("fork;", '⋔', none), ("forkv;", '⫙', none), ("fpartint;", '⨍', none), ("frac12", '½', none),
  ("frac12;", '½', none), ("frac13;", '⅓', none), ("frac14", '¼', none), ("frac14;", '¼', none),
  ("frac15;", '⅕', none), ("frac16;", '⅙', none), ("frac18;", '⅛', none), ("frac23;", '⅔', none),
  ("frac25;", '⅖', none), ("frac34", '¾', none), ("frac34;", '¾', none), ("frac35;", '⅗', none),
  ("frac38;", '⅜', none), ("frac45;", '⅘', none), ("frac56;", '⅚', none), ("frac58;", '⅝', none),
  ("frac78;", '⅞', none), ("frasl;", '⁄', none), ("frown;", '⌢', none), ("fscr;", '𝒻', none)]

/-- The references whose names begin with `g`. -/
def smallG : Names := [
  ("gE;", '≧', none), ("gEl;", '⪌', none), ("gacute;", 'ǵ', none), ("gamma;", 'γ', none),
  ("gammad;", 'ϝ', none), ("gap;", '⪆', none), ("gbreve;", 'ğ', none), ("gcirc;", 'ĝ', none),
  ("gcy;", 'г', none), ("gdot;", 'ġ', none), ("ge;", '≥', none), ("gel;", '⋛', none),
  ("geq;", '≥', none), ("geqq;", '≧', none), ("geqslant;", '⩾', none), ("ges;", '⩾', none),
  ("gescc;", '⪩', none), ("gesdot;", '⪀', none), ("gesdoto;", '⪂', none), ("gesdotol;", '⪄', none),
  ("gesl;", '⋛', some '\ufe00'), ("gesles;", '⪔', none), ("gfr;", '𝔤', none), ("gg;", '≫', none),
  ("ggg;", '⋙', none), ("gimel;", 'ℷ', none), ("gjcy;", 'ѓ', none), ("gl;", '≷', none),
  ("glE;", '⪒', none), ("gla;", '⪥', none), ("glj;", '⪤', none), ("gnE;", '≩', none),
  ("gnap;", '⪊', none), ("gnapprox;", '⪊', none), ("gne;", '⪈', none), ("gneq;", '⪈', none),
  ("gneqq;", '≩', none), ("gnsim;", '⋧', none), ("gopf;", '𝕘', none), ("grave;", '\x60', none),
  ("gscr;", 'ℊ', none), ("gsim;", '≳', none), ("gsime;", '⪎', none), ("gsiml;", '⪐', none),
  ("gt", '>', none), ("gt;", '>', none), ("gtcc;", '⪧', none), ("gtcir;", '⩺', none),
  ("gtdot;", '⋗', none), ("gtlPar;", '⦕', none), ("gtquest;", '⩼', none),
  ("gtrapprox;", '⪆', none), ("gtrarr;", '⥸', none), ("gtrdot;", '⋗', none),
  ("gtreqless;", '⋛', none), ("gtreqqless;", '⪌', none), ("gtrless;", '≷', none),
  ("gtrsim;", '≳', none), ("gvertneqq;", '≩', some '\ufe00'), ("gvnE;", '≩', some '\ufe00')]

/-- The references whose names begin with `h`. -/
def smallH : Names := [
  ("hArr;", '⇔', none), ("hairsp;", '\u200a', none), ("half;", '½', none), ("hamilt;", 'ℋ', none),
  ("hardcy;", 'ъ', none), ("harr;", '↔', none), ("harrcir;", '⥈', none), ("harrw;", '↭', none),
  ("hbar;", 'ℏ', none), ("hcirc;", 'ĥ', none), ("hearts;", '♥', none), ("heartsuit;", '♥', none),
  ("hellip;", '…', none), ("hercon;", '⊹', none), ("hfr;", '𝔥', none), ("hksearow;", '⤥', none),
  ("hkswarow;", '⤦', none), ("hoarr;", '⇿', none), ("homtht;", '∻', none),
  ("hookleftarrow;", '↩', none), ("hookrightarrow;", '↪', none), ("hopf;", '𝕙', none),
  ("horbar;", '―', none), ("hscr;", '𝒽', none), ("hslash;", 'ℏ', none), ("hstrok;", 'ħ', none),
  ("hybull;", '⁃', none), ("hyphen;", '‐', none)]

/-- The references whose names begin with `i`. -/
def smallI : Names := [
  ("iacute", 'í', none), ("iacute;", 'í', none), ("ic;", '\u2063', none), ("icirc", 'î', none),
  ("icirc;", 'î', none), ("icy;", 'и', none), ("iecy;", 'е', none), ("iexcl", '¡', none),
  ("iexcl;", '¡', none), ("iff;", '⇔', none), ("ifr;", '𝔦', none), ("igrave", 'ì', none),
  ("igrave;", 'ì', none), ("ii;", 'ⅈ', none), ("iiiint;", '⨌', none), ("iiint;", '∭', none),
  ("iinfin;", '⧜', none), ("iiota;", '℩', none), ("ijlig;", 'ĳ', none), ("imacr;", 'ī', none),
  ("image;", 'ℑ', none), ("imagline;", 'ℐ', none), ("imagpart;", 'ℑ', none), ("imath;", 'ı', none),
  ("imof;", '⊷', none), ("imped;", 'Ƶ', none), ("in;", '∈', none), ("incare;", '℅', none),
  ("infin;", '∞', none), ("infintie;", '⧝', none), ("inodot;", 'ı', none), ("int;", '∫', none),
  ("intcal;", '⊺', none), ("integers;", 'ℤ', none), ("intercal;", '⊺', none),
  ("intlarhk;", '⨗', none), ("intprod;", '⨼', none), ("iocy;", 'ё', none), ("iogon;", 'į', none),
  ("iopf;", '𝕚', none), ("iota;", 'ι', none), ("iprod;", '⨼', none), ("iquest", '¿', none),
  ("iquest;", '¿', none), ("iscr;", '𝒾', none), ("isin;", '∈', none), ("isinE;", '⋹', none),
  ("isindot;", '⋵', none), ("isins;", '⋴', none), ("isinsv;", '⋳', none), ("isinv;", '∈', none),
  ("it;", '\u2062', none), ("itilde;", 'ĩ', none), ("iukcy;", 'і', none), ("iuml", 'ï', none),
  ("iuml;", 'ï', none)]

/-- The references whose names begin with `j`. -/
def smallJ : Names := [
  ("jcirc;", 'ĵ', none), ("jcy;", 'й', none), ("jfr;", '𝔧', none), ("jmath;", 'ȷ', none),
  ("jopf;", '𝕛', none), ("jscr;", '𝒿', none), ("jsercy;", 'ј', none), ("jukcy;", 'є', none)]

/-- The references whose names begin with `k`. -/
def smallK : Names := [
  ("kappa;", 'κ', none), ("kappav;", 'ϰ', none), ("kcedil;", 'ķ', none), ("kcy;", 'к', none),
  ("kfr;", '𝔨', none), ("kgreen;", 'ĸ', none), ("khcy;", 'х', none), ("kjcy;", 'ќ', none),
  ("kopf;", '𝕜', none), ("kscr;", '𝓀', none)]

/-- The references whose names begin with `l`. -/
def smallL : Names := [
  ("lAarr;", '⇚', none), ("lArr;", '⇐', none), ("lAtail;", '⤛', none), ("lBarr;", '⤎', none),
  ("lE;", '≦', none), ("lEg;", '⪋', none), ("lHar;", '⥢', none), ("lacute;", 'ĺ', none),
  ("laemptyv;", '⦴', none), ("lagran;", 'ℒ', none), ("lambda;", 'λ', none), ("lang;", '⟨', none),
  ("langd;", '⦑', none), ("langle;", '⟨', none), ("lap;", '⪅', none), ("laquo", '«', none),
  ("laquo;", '«', none), ("larr;", '←', none), ("larrb;", '⇤', none), ("larrbfs;", '⤟', none),
  ("larrfs;", '⤝', none), ("larrhk;", '↩', none), ("larrlp;", '↫', none), ("larrpl;", '⤹', none),
  ("larrsim;", '⥳', none), ("larrtl;", '↢', none), ("lat;", '⪫', none), ("latail;", '⤙', none),
  ("late;", '⪭', none), ("lates;", '⪭', some '\ufe00'), ("lbarr;", '⤌', none),
  ("lbbrk;", '❲', none), ("lbrace;", '\x7b', none), ("lbrack;", '[', none), ("lbrke;", '⦋', none),
  ("lbrksld;", '⦏', none), ("lbrkslu;", '⦍', none), ("lcaron;", 'ľ', none), ("lcedil;", 'ļ', none),
  ("lceil;", '⌈', none), ("lcub;", '\x7b', none), ("lcy;", 'л', none), ("ldca;", '⤶', none),
  ("ldquo;", '“', none), ("ldquor;", '„', none), ("ldrdhar;", '⥧', none), ("ldrushar;", '⥋', none),
  ("ldsh;", '↲', none), ("le;", '≤', none), ("leftarrow;", '←', none),
  ("leftarrowtail;", '↢', none), ("leftharpoondown;", '↽', none), ("leftharpoonup;", '↼', none),
  ("leftleftarrows;", '⇇', none), ("leftrightarrow;", '↔', none), ("leftrightarrows;", '⇆', none),
  ("leftrightharpoons;", '⇋', none), ("leftrightsquigarrow;", '↭', none),
  ("leftthreetimes;", '⋋', none), ("leg;", '⋚', none), ("leq;", '≤', none), ("leqq;", '≦', none),
  ("leqslant;", '⩽', none), ("les;", '⩽', none), ("lescc;", '⪨', none), ("lesdot;", '⩿', none),
  ("lesdoto;", '⪁', none), ("lesdotor;", '⪃', none), ("lesg;", '⋚', some '\ufe00'),
  ("lesges;", '⪓', none), ("lessapprox;", '⪅', none), ("lessdot;", '⋖', none),
  ("lesseqgtr;", '⋚', none), ("lesseqqgtr;", '⪋', none), ("lessgtr;", '≶', none),
  ("lesssim;", '≲', none), ("lfisht;", '⥼', none), ("lfloor;", '⌊', none), ("lfr;", '𝔩', none),
  ("lg;", '≶', none), ("lgE;", '⪑', none), ("lhard;", '↽', none), ("lharu;", '↼', none),
  ("lharul;", '⥪', none), ("lhblk;", '▄', none), ("ljcy;", 'љ', none), ("ll;", '≪', none),
  ("llarr;", '⇇', none), ("llcorner;", '⌞', none), ("llhard;", '⥫', none), ("lltri;", '◺', none),
  ("lmidot;", 'ŀ', none), ("lmoust;", '⎰', none), ("lmoustache;", '⎰', none), ("lnE;", '≨', none),
  ("lnap;", '⪉', none), ("lnapprox;", '⪉', none), ("lne;", '⪇', none), ("lneq;", '⪇', none),
  ("lneqq;", '≨', none), ("lnsim;", '⋦', none), ("loang;", '⟬', none), ("loarr;", '⇽', none),
  ("lobrk;", '⟦', none), ("longleftarrow;", '⟵', none), ("longleftrightarrow;", '⟷', none),
  ("longmapsto;", '⟼', none), ("longrightarrow;", '⟶', none), ("looparrowleft;", '↫', none),
  ("looparrowright;", '↬', none), ("lopar;", '⦅', none), ("lopf;", '𝕝', none),
  ("loplus;", '⨭', none), ("lotimes;", '⨴', none), ("lowast;", '∗', none), ("lowbar;", '_', none),
  ("loz;", '◊', none), ("lozenge;", '◊', none), ("lozf;", '⧫', none), ("lpar;", '(', none),
  ("lparlt;", '⦓', none), ("lrarr;", '⇆', none), ("lrcorner;", '⌟', none), ("lrhar;", '⇋', none),
  ("lrhard;", '⥭', none), ("lrm;", '\u200e', none), ("lrtri;", '⊿', none), ("lsaquo;", '‹', none),
  ("lscr;", '𝓁', none), ("lsh;", '↰', none), ("lsim;", '≲', none), ("lsime;", '⪍', none),
  ("lsimg;", '⪏', none), ("lsqb;", '[', none), ("lsquo;", '‘', none), ("lsquor;", '‚', none),
  ("lstrok;", 'ł', none), ("lt", '<', none), ("lt;", '<', none), ("ltcc;", '⪦', none),
  ("ltcir;", '⩹', none), ("ltdot;", '⋖', none), ("lthree;", '⋋', none), ("ltimes;", '⋉', none),
  ("ltlarr;", '⥶', none), ("ltquest;", '⩻', none), ("ltrPar;", '⦖', none), ("ltri;", '◃', none),
  ("ltrie;", '⊴', none), ("ltrif;", '◂', none), ("lurdshar;", '⥊', none), ("luruhar;", '⥦', none),
  ("lvertneqq;", '≨', some '\ufe00'), ("lvnE;", '≨', some '\ufe00')]

/-- The references whose names begin with `m`. -/
def smallM : Names := [
  ("mDDot;", '∺', none), ("macr", '¯', none), ("macr;", '¯', none), ("male;", '♂', none),
  ("malt;", '✠', none), ("maltese;", '✠', none), ("map;", '↦', none), ("mapsto;", '↦', none),
  ("mapstodown;", '↧', none), ("mapstoleft;", '↤', none), ("mapstoup;", '↥', none),
  ("marker;", '▮', none), ("mcomma;", '⨩', none), ("mcy;", 'м', none), ("mdash;", '—', none),
  ("measuredangle;", '∡', none), ("mfr;", '𝔪', none), ("mho;", '℧', none), ("micro", 'µ', none),
  ("micro;", 'µ', none), ("mid;", '∣', none), ("midast;", '*', none), ("midcir;", '⫰', none),
  ("middot", '·', none), ("middot;", '·', none), ("minus;", '−', none), ("minusb;", '⊟', none),
  ("minusd;", '∸', none), ("minusdu;", '⨪', none), ("mlcp;", '⫛', none), ("mldr;", '…', none),
  ("mnplus;", '∓', none), ("models;", '⊧', none), ("mopf;", '𝕞', none), ("mp;", '∓', none),
  ("mscr;", '𝓂', none), ("mstpos;", '∾', none), ("mu;", 'μ', none), ("multimap;", '⊸', none),
  ("mumap;", '⊸', none)]

/-- The references whose names begin with `n`. -/
def smallN : Names := [
  ("nGg;", '⋙', some '\u0338'), ("nGt;", '≫', some '\u20d2'), ("nGtv;", '≫', some '\u0338'),
  ("nLeftarrow;", '⇍', none), ("nLeftrightarrow;", '⇎', none), ("nLl;", '⋘', some '\u0338'),
  ("nLt;", '≪', some '\u20d2'), ("nLtv;", '≪', some '\u0338'), ("nRightarrow;", '⇏', none),
  ("nVDash;", '⊯', none), ("nVdash;", '⊮', none), ("nabla;", '∇', none), ("nacute;", 'ń', none),
  ("nang;", '∠', some '\u20d2'), ("nap;", '≉', none), ("napE;", '⩰', some '\u0338'),
  ("napid;", '≋', some '\u0338'), ("napos;", 'ŉ', none), ("napprox;", '≉', none),
  ("natur;", '♮', none), ("natural;", '♮', none), ("naturals;", 'ℕ', none),
  ("nbsp", '\u00a0', none), ("nbsp;", '\u00a0', none), ("nbump;", '≎', some '\u0338'),
  ("nbumpe;", '≏', some '\u0338'), ("ncap;", '⩃', none), ("ncaron;", 'ň', none),
  ("ncedil;", 'ņ', none), ("ncong;", '≇', none), ("ncongdot;", '⩭', some '\u0338'),
  ("ncup;", '⩂', none), ("ncy;", 'н', none), ("ndash;", '–', none), ("ne;", '≠', none),
  ("neArr;", '⇗', none), ("nearhk;", '⤤', none), ("nearr;", '↗', none), ("nearrow;", '↗', none),
  ("nedot;", '≐', some '\u0338'), ("nequiv;", '≢', none), ("nesear;", '⤨', none),
  ("nesim;", '≂', some '\u0338'), ("nexist;", '∄', none), ("nexists;", '∄', none),
  ("nfr;", '𝔫', none), ("ngE;", '≧', some '\u0338'), ("nge;", '≱', none), ("ngeq;", '≱', none),
  ("ngeqq;", '≧', some '\u0338'), ("ngeqslant;", '⩾', some '\u0338'),
  ("nges;", '⩾', some '\u0338'), ("ngsim;", '≵', none), ("ngt;", '≯', none), ("ngtr;", '≯', none),
  ("nhArr;", '⇎', none), ("nharr;", '↮', none), ("nhpar;", '⫲', none), ("ni;", '∋', none),
  ("nis;", '⋼', none), ("nisd;", '⋺', none), ("niv;", '∋', none), ("njcy;", 'њ', none),
  ("nlArr;", '⇍', none), ("nlE;", '≦', some '\u0338'), ("nlarr;", '↚', none), ("nldr;", '‥', none),
  ("nle;", '≰', none), ("nleftarrow;", '↚', none), ("nleftrightarrow;", '↮', none),
  ("nleq;", '≰', none), ("nleqq;", '≦', some '\u0338'), ("nleqslant;", '⩽', some '\u0338'),
  ("nles;", '⩽', some '\u0338'), ("nless;", '≮', none), ("nlsim;", '≴', none), ("nlt;", '≮', none),
  ("nltri;", '⋪', none), ("nltrie;", '⋬', none), ("nmid;", '∤', none), ("nopf;", '𝕟', none),
  ("not", '¬', none), ("not;", '¬', none), ("notin;", '∉', none), ("notinE;", '⋹', some '\u0338'),
  ("notindot;", '⋵', some '\u0338'), ("notinva;", '∉', none), ("notinvb;", '⋷', none),
  ("notinvc;", '⋶', none), ("notni;", '∌', none), ("notniva;", '∌', none), ("notnivb;", '⋾', none),
  ("notnivc;", '⋽', none), ("npar;", '∦', none), ("nparallel;", '∦', none),
  ("nparsl;", '⫽', some '\u20e5'), ("npart;", '∂', some '\u0338'), ("npolint;", '⨔', none),
  ("npr;", '⊀', none), ("nprcue;", '⋠', none), ("npre;", '⪯', some '\u0338'),
  ("nprec;", '⊀', none), ("npreceq;", '⪯', some '\u0338'), ("nrArr;", '⇏', none),
  ("nrarr;", '↛', none), ("nrarrc;", '⤳', some '\u0338'), ("nrarrw;", '↝', some '\u0338'),
  ("nrightarrow;", '↛', none), ("nrtri;", '⋫', none), ("nrtrie;", '⋭', none), ("nsc;", '⊁', none),
  ("nsccue;", '⋡', none), ("nsce;", '⪰', some '\u0338'), ("nscr;", '𝓃', none),
  ("nshortmid;", '∤', none), ("nshortparallel;", '∦', none), ("nsim;", '≁', none),
  ("nsime;", '≄', none), ("nsimeq;", '≄', none), ("nsmid;", '∤', none), ("nspar;", '∦', none),
  ("nsqsube;", '⋢', none), ("nsqsupe;", '⋣', none), ("nsub;", '⊄', none),
  ("nsubE;", '⫅', some '\u0338'), ("nsube;", '⊈', none), ("nsubset;", '⊂', some '\u20d2'),
  ("nsubseteq;", '⊈', none), ("nsubseteqq;", '⫅', some '\u0338'), ("nsucc;", '⊁', none),
  ("nsucceq;", '⪰', some '\u0338'), ("nsup;", '⊅', none), ("nsupE;", '⫆', some '\u0338'),
  ("nsupe;", '⊉', none), ("nsupset;", '⊃', some '\u20d2'), ("nsupseteq;", '⊉', none),
  ("nsupseteqq;", '⫆', some '\u0338'), ("ntgl;", '≹', none), ("ntilde", 'ñ', none),
  ("ntilde;", 'ñ', none), ("ntlg;", '≸', none), ("ntriangleleft;", '⋪', none),
  ("ntrianglelefteq;", '⋬', none), ("ntriangleright;", '⋫', none),
  ("ntrianglerighteq;", '⋭', none), ("nu;", 'ν', none), ("num;", '#', none),
  ("numero;", '№', none), ("numsp;", '\u2007', none), ("nvDash;", '⊭', none),
  ("nvHarr;", '⤄', none), ("nvap;", '≍', some '\u20d2'), ("nvdash;", '⊬', none),
  ("nvge;", '≥', some '\u20d2'), ("nvgt;", '>', some '\u20d2'), ("nvinfin;", '⧞', none),
  ("nvlArr;", '⤂', none), ("nvle;", '≤', some '\u20d2'), ("nvlt;", '<', some '\u20d2'),
  ("nvltrie;", '⊴', some '\u20d2'), ("nvrArr;", '⤃', none), ("nvrtrie;", '⊵', some '\u20d2'),
  ("nvsim;", '∼', some '\u20d2'), ("nwArr;", '⇖', none), ("nwarhk;", '⤣', none),
  ("nwarr;", '↖', none), ("nwarrow;", '↖', none), ("nwnear;", '⤧', none)]

/-- The references whose names begin with `o`. -/
def smallO : Names := [
  ("oS;", 'Ⓢ', none), ("oacute", 'ó', none), ("oacute;", 'ó', none), ("oast;", '⊛', none),
  ("ocir;", '⊚', none), ("ocirc", 'ô', none), ("ocirc;", 'ô', none), ("ocy;", 'о', none),
  ("odash;", '⊝', none), ("odblac;", 'ő', none), ("odiv;", '⨸', none), ("odot;", '⊙', none),
  ("odsold;", '⦼', none), ("oelig;", 'œ', none), ("ofcir;", '⦿', none), ("ofr;", '𝔬', none),
  ("ogon;", '˛', none), ("ograve", 'ò', none), ("ograve;", 'ò', none), ("ogt;", '⧁', none),
  ("ohbar;", '⦵', none), ("ohm;", 'Ω', none), ("oint;", '∮', none), ("olarr;", '↺', none),
  ("olcir;", '⦾', none), ("olcross;", '⦻', none), ("oline;", '‾', none), ("olt;", '⧀', none),
  ("omacr;", 'ō', none), ("omega;", 'ω', none), ("omicron;", 'ο', none), ("omid;", '⦶', none),
  ("ominus;", '⊖', none), ("oopf;", '𝕠', none), ("opar;", '⦷', none), ("operp;", '⦹', none),
  ("oplus;", '⊕', none), ("or;", '∨', none), ("orarr;", '↻', none), ("ord;", '⩝', none),
  ("order;", 'ℴ', none), ("orderof;", 'ℴ', none), ("ordf", 'ª', none), ("ordf;", 'ª', none),
  ("ordm", 'º', none), ("ordm;", 'º', none), ("origof;", '⊶', none), ("oror;", '⩖', none),
  ("orslope;", '⩗', none), ("orv;", '⩛', none), ("oscr;", 'ℴ', none), ("oslash", 'ø', none),
  ("oslash;", 'ø', none), ("osol;", '⊘', none), ("otilde", 'õ', none), ("otilde;", 'õ', none),
  ("otimes;", '⊗', none), ("otimesas;", '⨶', none), ("ouml", 'ö', none), ("ouml;", 'ö', none),
  ("ovbar;", '⌽', none)]

/-- The references whose names begin with `p`. -/
def smallP : Names := [
  ("par;", '∥', none), ("para", '¶', none), ("para;", '¶', none), ("parallel;", '∥', none),
  ("parsim;", '⫳', none), ("parsl;", '⫽', none), ("part;", '∂', none), ("pcy;", 'п', none),
  ("percnt;", '%', none), ("period;", '.', none), ("permil;", '‰', none), ("perp;", '⊥', none),
  ("pertenk;", '‱', none), ("pfr;", '𝔭', none), ("phi;", 'φ', none), ("phiv;", 'ϕ', none),
  ("phmmat;", 'ℳ', none), ("phone;", '☎', none), ("pi;", 'π', none), ("pitchfork;", '⋔', none),
  ("piv;", 'ϖ', none), ("planck;", 'ℏ', none), ("planckh;", 'ℎ', none), ("plankv;", 'ℏ', none),
  ("plus;", '+', none), ("plusacir;", '⨣', none), ("plusb;", '⊞', none), ("pluscir;", '⨢', none),
  ("plusdo;", '∔', none), ("plusdu;", '⨥', none), ("pluse;", '⩲', none), ("plusmn", '±', none),
  ("plusmn;", '±', none), ("plussim;", '⨦', none), ("plustwo;", '⨧', none), ("pm;", '±', none),
  ("pointint;", '⨕', none), ("popf;", '𝕡', none), ("pound", '£', none), ("pound;", '£', none),
  ("pr;", '≺', none), ("prE;", '⪳', none), ("prap;", '⪷', none), ("prcue;", '≼', none),
  ("pre;", '⪯', none), ("prec;", '≺', none), ("precapprox;", '⪷', none),
  ("preccurlyeq;", '≼', none), ("preceq;", '⪯', none), ("precnapprox;", '⪹', none),
  ("precneqq;", '⪵', none), ("precnsim;", '⋨', none), ("precsim;", '≾', none),
  ("prime;", '′', none), ("primes;", 'ℙ', none), ("prnE;", '⪵', none), ("prnap;", '⪹', none),
  ("prnsim;", '⋨', none), ("prod;", '∏', none), ("profalar;", '⌮', none), ("profline;", '⌒', none),
  ("profsurf;", '⌓', none), ("prop;", '∝', none), ("propto;", '∝', none), ("prsim;", '≾', none),
  ("prurel;", '⊰', none), ("pscr;", '𝓅', none), ("psi;", 'ψ', none), ("puncsp;", '\u2008', none)]

/-- The references whose names begin with `q`. -/
def smallQ : Names := [
  ("qfr;", '𝔮', none), ("qint;", '⨌', none), ("qopf;", '𝕢', none), ("qprime;", '⁗', none),
  ("qscr;", '𝓆', none), ("quaternions;", 'ℍ', none), ("quatint;", '⨖', none),
  ("quest;", '?', none), ("questeq;", '≟', none), ("quot", '"', none), ("quot;", '"', none)]

/-- The references whose names begin with `r`. -/
def smallR : Names := [
  ("rAarr;", '⇛', none), ("rArr;", '⇒', none), ("rAtail;", '⤜', none), ("rBarr;", '⤏', none),
  ("rHar;", '⥤', none), ("race;", '∽', some '\u0331'), ("racute;", 'ŕ', none),
  ("radic;", '√', none), ("raemptyv;", '⦳', none), ("rang;", '⟩', none), ("rangd;", '⦒', none),
  ("range;", '⦥', none), ("rangle;", '⟩', none), ("raquo", '»', none), ("raquo;", '»', none),
  ("rarr;", '→', none), ("rarrap;", '⥵', none), ("rarrb;", '⇥', none), ("rarrbfs;", '⤠', none),
  ("rarrc;", '⤳', none), ("rarrfs;", '⤞', none), ("rarrhk;", '↪', none), ("rarrlp;", '↬', none),
  ("rarrpl;", '⥅', none), ("rarrsim;", '⥴', none), ("rarrtl;", '↣', none), ("rarrw;", '↝', none),
  ("ratail;", '⤚', none), ("ratio;", '∶', none), ("rationals;", 'ℚ', none), ("rbarr;", '⤍', none),
  ("rbbrk;", '❳', none), ("rbrace;", '\x7d', none), ("rbrack;", ']', none), ("rbrke;", '⦌', none),
  ("rbrksld;", '⦎', none), ("rbrkslu;", '⦐', none), ("rcaron;", 'ř', none), ("rcedil;", 'ŗ', none),
  ("rceil;", '⌉', none), ("rcub;", '\x7d', none), ("rcy;", 'р', none), ("rdca;", '⤷', none),
  ("rdldhar;", '⥩', none), ("rdquo;", '”', none), ("rdquor;", '”', none), ("rdsh;", '↳', none),
  ("real;", 'ℜ', none), ("realine;", 'ℛ', none), ("realpart;", 'ℜ', none), ("reals;", 'ℝ', none),
  ("rect;", '▭', none), ("reg", '®', none), ("reg;", '®', none), ("rfisht;", '⥽', none),
  ("rfloor;", '⌋', none), ("rfr;", '𝔯', none), ("rhard;", '⇁', none), ("rharu;", '⇀', none),
  ("rharul;", '⥬', none), ("rho;", 'ρ', none), ("rhov;", 'ϱ', none), ("rightarrow;", '→', none),
  ("rightarrowtail;", '↣', none), ("rightharpoondown;", '⇁', none), ("rightharpoonup;", '⇀', none),
  ("rightleftarrows;", '⇄', none), ("rightleftharpoons;", '⇌', none),
  ("rightrightarrows;", '⇉', none), ("rightsquigarrow;", '↝', none),
  ("rightthreetimes;", '⋌', none), ("ring;", '˚', none), ("risingdotseq;", '≓', none),
  ("rlarr;", '⇄', none), ("rlhar;", '⇌', none), ("rlm;", '\u200f', none), ("rmoust;", '⎱', none),
  ("rmoustache;", '⎱', none), ("rnmid;", '⫮', none), ("roang;", '⟭', none), ("roarr;", '⇾', none),
  ("robrk;", '⟧', none), ("ropar;", '⦆', none), ("ropf;", '𝕣', none), ("roplus;", '⨮', none),
  ("rotimes;", '⨵', none), ("rpar;", ')', none), ("rpargt;", '⦔', none), ("rppolint;", '⨒', none),
  ("rrarr;", '⇉', none), ("rsaquo;", '›', none), ("rscr;", '𝓇', none), ("rsh;", '↱', none),
  ("rsqb;", ']', none), ("rsquo;", '’', none), ("rsquor;", '’', none), ("rthree;", '⋌', none),
  ("rtimes;", '⋊', none), ("rtri;", '▹', none), ("rtrie;", '⊵', none), ("rtrif;", '▸', none),
  ("rtriltri;", '⧎', none), ("ruluhar;", '⥨', none), ("rx;", '℞', none)]

/-- The references whose names begin with `s`. -/
def smallS : Names := [
  ("sacute;", 'ś', none), ("sbquo;", '‚', none), ("sc;", '≻', none), ("scE;", '⪴', none),
  ("scap;", '⪸', none), ("scaron;", 'š', none), ("sccue;", '≽', none), ("sce;", '⪰', none),
  ("scedil;", 'ş', none), ("scirc;", 'ŝ', none), ("scnE;", '⪶', none), ("scnap;", '⪺', none),
  ("scnsim;", '⋩', none), ("scpolint;", '⨓', none), ("scsim;", '≿', none), ("scy;", 'с', none),
  ("sdot;", '⋅', none), ("sdotb;", '⊡', none), ("sdote;", '⩦', none), ("seArr;", '⇘', none),
  ("searhk;", '⤥', none), ("searr;", '↘', none), ("searrow;", '↘', none), ("sect", '§', none),
  ("sect;", '§', none), ("semi;", ';', none), ("seswar;", '⤩', none), ("setminus;", '∖', none),
  ("setmn;", '∖', none), ("sext;", '✶', none), ("sfr;", '𝔰', none), ("sfrown;", '⌢', none),
  ("sharp;", '♯', none), ("shchcy;", 'щ', none), ("shcy;", 'ш', none), ("shortmid;", '∣', none),
  ("shortparallel;", '∥', none), ("shy", '\u00ad', none), ("shy;", '\u00ad', none),
  ("sigma;", 'σ', none), ("sigmaf;", 'ς', none), ("sigmav;", 'ς', none), ("sim;", '∼', none),
  ("simdot;", '⩪', none), ("sime;", '≃', none), ("simeq;", '≃', none), ("simg;", '⪞', none),
  ("simgE;", '⪠', none), ("siml;", '⪝', none), ("simlE;", '⪟', none), ("simne;", '≆', none),
  ("simplus;", '⨤', none), ("simrarr;", '⥲', none), ("slarr;", '←', none),
  ("smallsetminus;", '∖', none), ("smashp;", '⨳', none), ("smeparsl;", '⧤', none),
  ("smid;", '∣', none), ("smile;", '⌣', none), ("smt;", '⪪', none), ("smte;", '⪬', none),
  ("smtes;", '⪬', some '\ufe00'), ("softcy;", 'ь', none), ("sol;", '/', none),
  ("solb;", '⧄', none), ("solbar;", '⌿', none), ("sopf;", '𝕤', none), ("spades;", '♠', none),
  ("spadesuit;", '♠', none), ("spar;", '∥', none), ("sqcap;", '⊓', none),
  ("sqcaps;", '⊓', some '\ufe00'), ("sqcup;", '⊔', none), ("sqcups;", '⊔', some '\ufe00'),
  ("sqsub;", '⊏', none), ("sqsube;", '⊑', none), ("sqsubset;", '⊏', none),
  ("sqsubseteq;", '⊑', none), ("sqsup;", '⊐', none), ("sqsupe;", '⊒', none),
  ("sqsupset;", '⊐', none), ("sqsupseteq;", '⊒', none), ("squ;", '□', none),
  ("square;", '□', none), ("squarf;", '▪', none), ("squf;", '▪', none), ("srarr;", '→', none),
  ("sscr;", '𝓈', none), ("ssetmn;", '∖', none), ("ssmile;", '⌣', none), ("sstarf;", '⋆', none),
  ("star;", '☆', none), ("starf;", '★', none), ("straightepsilon;", 'ϵ', none),
  ("straightphi;", 'ϕ', none), ("strns;", '¯', none), ("sub;", '⊂', none), ("subE;", '⫅', none),
  ("subdot;", '⪽', none), ("sube;", '⊆', none), ("subedot;", '⫃', none), ("submult;", '⫁', none),
  ("subnE;", '⫋', none), ("subne;", '⊊', none), ("subplus;", '⪿', none), ("subrarr;", '⥹', none),
  ("subset;", '⊂', none), ("subseteq;", '⊆', none), ("subseteqq;", '⫅', none),
  ("subsetneq;", '⊊', none), ("subsetneqq;", '⫋', none), ("subsim;", '⫇', none),
  ("subsub;", '⫕', none), ("subsup;", '⫓', none), ("succ;", '≻', none), ("succapprox;", '⪸', none),
  ("succcurlyeq;", '≽', none), ("succeq;", '⪰', none), ("succnapprox;", '⪺', none),
  ("succneqq;", '⪶', none), ("succnsim;", '⋩', none), ("succsim;", '≿', none), ("sum;", '∑', none),
  ("sung;", '♪', none), ("sup1", '¹', none), ("sup1;", '¹', none), ("sup2", '²', none),
  ("sup2;", '²', none), ("sup3", '³', none), ("sup3;", '³', none), ("sup;", '⊃', none),
  ("supE;", '⫆', none), ("supdot;", '⪾', none), ("supdsub;", '⫘', none), ("supe;", '⊇', none),
  ("supedot;", '⫄', none), ("suphsol;", '⟉', none), ("suphsub;", '⫗', none),
  ("suplarr;", '⥻', none), ("supmult;", '⫂', none), ("supnE;", '⫌', none), ("supne;", '⊋', none),
  ("supplus;", '⫀', none), ("supset;", '⊃', none), ("supseteq;", '⊇', none),
  ("supseteqq;", '⫆', none), ("supsetneq;", '⊋', none), ("supsetneqq;", '⫌', none),
  ("supsim;", '⫈', none), ("supsub;", '⫔', none), ("supsup;", '⫖', none), ("swArr;", '⇙', none),
  ("swarhk;", '⤦', none), ("swarr;", '↙', none), ("swarrow;", '↙', none), ("swnwar;", '⤪', none),
  ("szlig", 'ß', none), ("szlig;", 'ß', none)]

/-- The references whose names begin with `t`. -/
def smallT : Names := [
  ("target;", '⌖', none), ("tau;", 'τ', none), ("tbrk;", '⎴', none), ("tcaron;", 'ť', none),
  ("tcedil;", 'ţ', none), ("tcy;", 'т', none), ("tdot;", '\u20db', none), ("telrec;", '⌕', none),
  ("tfr;", '𝔱', none), ("there4;", '∴', none), ("therefore;", '∴', none), ("theta;", 'θ', none),
  ("thetasym;", 'ϑ', none), ("thetav;", 'ϑ', none), ("thickapprox;", '≈', none),
  ("thicksim;", '∼', none), ("thinsp;", '\u2009', none), ("thkap;", '≈', none),
  ("thksim;", '∼', none), ("thorn", 'þ', none), ("thorn;", 'þ', none), ("tilde;", '˜', none),
  ("times", '×', none), ("times;", '×', none), ("timesb;", '⊠', none), ("timesbar;", '⨱', none),
  ("timesd;", '⨰', none), ("tint;", '∭', none), ("toea;", '⤨', none), ("top;", '⊤', none),
  ("topbot;", '⌶', none), ("topcir;", '⫱', none), ("topf;", '𝕥', none), ("topfork;", '⫚', none),
  ("tosa;", '⤩', none), ("tprime;", '‴', none), ("trade;", '™', none), ("triangle;", '▵', none),
  ("triangledown;", '▿', none), ("triangleleft;", '◃', none), ("trianglelefteq;", '⊴', none),
  ("triangleq;", '≜', none), ("triangleright;", '▹', none), ("trianglerighteq;", '⊵', none),
  ("tridot;", '◬', none), ("trie;", '≜', none), ("triminus;", '⨺', none), ("triplus;", '⨹', none),
  ("trisb;", '⧍', none), ("tritime;", '⨻', none), ("trpezium;", '⏢', none), ("tscr;", '𝓉', none),
  ("tscy;", 'ц', none), ("tshcy;", 'ћ', none), ("tstrok;", 'ŧ', none), ("twixt;", '≬', none),
  ("twoheadleftarrow;", '↞', none), ("twoheadrightarrow;", '↠', none)]

/-- The references whose names begin with `u`. -/
def smallU : Names := [
  ("uArr;", '⇑', none), ("uHar;", '⥣', none), ("uacute", 'ú', none), ("uacute;", 'ú', none),
  ("uarr;", '↑', none), ("ubrcy;", 'ў', none), ("ubreve;", 'ŭ', none), ("ucirc", 'û', none),
  ("ucirc;", 'û', none), ("ucy;", 'у', none), ("udarr;", '⇅', none), ("udblac;", 'ű', none),
  ("udhar;", '⥮', none), ("ufisht;", '⥾', none), ("ufr;", '𝔲', none), ("ugrave", 'ù', none),
  ("ugrave;", 'ù', none), ("uharl;", '↿', none), ("uharr;", '↾', none), ("uhblk;", '▀', none),
  ("ulcorn;", '⌜', none), ("ulcorner;", '⌜', none), ("ulcrop;", '⌏', none), ("ultri;", '◸', none),
  ("umacr;", 'ū', none), ("uml", '¨', none), ("uml;", '¨', none), ("uogon;", 'ų', none),
  ("uopf;", '𝕦', none), ("uparrow;", '↑', none), ("updownarrow;", '↕', none),
  ("upharpoonleft;", '↿', none), ("upharpoonright;", '↾', none), ("uplus;", '⊎', none),
  ("upsi;", 'υ', none), ("upsih;", 'ϒ', none), ("upsilon;", 'υ', none), ("upuparrows;", '⇈', none),
  ("urcorn;", '⌝', none), ("urcorner;", '⌝', none), ("urcrop;", '⌎', none), ("uring;", 'ů', none),
  ("urtri;", '◹', none), ("uscr;", '𝓊', none), ("utdot;", '⋰', none), ("utilde;", 'ũ', none),
  ("utri;", '▵', none), ("utrif;", '▴', none), ("uuarr;", '⇈', none), ("uuml", 'ü', none),
  ("uuml;", 'ü', none), ("uwangle;", '⦧', none)]

/-- The references whose names begin with `v`. -/
def smallV : Names := [
  ("vArr;", '⇕', none), ("vBar;", '⫨', none), ("vBarv;", '⫩', none), ("vDash;", '⊨', none),
  ("vangrt;", '⦜', none), ("varepsilon;", 'ϵ', none), ("varkappa;", 'ϰ', none),
  ("varnothing;", '∅', none), ("varphi;", 'ϕ', none), ("varpi;", 'ϖ', none),
  ("varpropto;", '∝', none), ("varr;", '↕', none), ("varrho;", 'ϱ', none),
  ("varsigma;", 'ς', none), ("varsubsetneq;", '⊊', some '\ufe00'),
  ("varsubsetneqq;", '⫋', some '\ufe00'), ("varsupsetneq;", '⊋', some '\ufe00'),
  ("varsupsetneqq;", '⫌', some '\ufe00'), ("vartheta;", 'ϑ', none),
  ("vartriangleleft;", '⊲', none), ("vartriangleright;", '⊳', none), ("vcy;", 'в', none),
  ("vdash;", '⊢', none), ("vee;", '∨', none), ("veebar;", '⊻', none), ("veeeq;", '≚', none),
  ("vellip;", '⋮', none), ("verbar;", '|', none), ("vert;", '|', none), ("vfr;", '𝔳', none),
  ("vltri;", '⊲', none), ("vnsub;", '⊂', some '\u20d2'), ("vnsup;", '⊃', some '\u20d2'),
  ("vopf;", '𝕧', none), ("vprop;", '∝', none), ("vrtri;", '⊳', none), ("vscr;", '𝓋', none),
  ("vsubnE;", '⫋', some '\ufe00'), ("vsubne;", '⊊', some '\ufe00'),
  ("vsupnE;", '⫌', some '\ufe00'), ("vsupne;", '⊋', some '\ufe00'), ("vzigzag;", '⦚', none)]

/-- The references whose names begin with `w`. -/
def smallW : Names := [
  ("wcirc;", 'ŵ', none), ("wedbar;", '⩟', none), ("wedge;", '∧', none), ("wedgeq;", '≙', none),
  ("weierp;", '℘', none), ("wfr;", '𝔴', none), ("wopf;", '𝕨', none), ("wp;", '℘', none),
  ("wr;", '≀', none), ("wreath;", '≀', none), ("wscr;", '𝓌', none)]

/-- The references whose names begin with `x`. -/
def smallX : Names := [
  ("xcap;", '⋂', none), ("xcirc;", '◯', none), ("xcup;", '⋃', none), ("xdtri;", '▽', none),
  ("xfr;", '𝔵', none), ("xhArr;", '⟺', none), ("xharr;", '⟷', none), ("xi;", 'ξ', none),
  ("xlArr;", '⟸', none), ("xlarr;", '⟵', none), ("xmap;", '⟼', none), ("xnis;", '⋻', none),
  ("xodot;", '⨀', none), ("xopf;", '𝕩', none), ("xoplus;", '⨁', none), ("xotime;", '⨂', none),
  ("xrArr;", '⟹', none), ("xrarr;", '⟶', none), ("xscr;", '𝓍', none), ("xsqcup;", '⨆', none),
  ("xuplus;", '⨄', none), ("xutri;", '△', none), ("xvee;", '⋁', none), ("xwedge;", '⋀', none)]

/-- The references whose names begin with `y`. -/
def smallY : Names := [
  ("yacute", 'ý', none), ("yacute;", 'ý', none), ("yacy;", 'я', none), ("ycirc;", 'ŷ', none),
  ("ycy;", 'ы', none), ("yen", '¥', none), ("yen;", '¥', none), ("yfr;", '𝔶', none),
  ("yicy;", 'ї', none), ("yopf;", '𝕪', none), ("yscr;", '𝓎', none), ("yucy;", 'ю', none),
  ("yuml", 'ÿ', none), ("yuml;", 'ÿ', none)]

/-- The references whose names begin with `z`. -/
def smallZ : Names := [
  ("zacute;", 'ź', none), ("zcaron;", 'ž', none), ("zcy;", 'з', none), ("zdot;", 'ż', none),
  ("zeetrf;", 'ℨ', none), ("zeta;", 'ζ', none), ("zfr;", '𝔷', none), ("zhcy;", 'ж', none),
  ("zigrarr;", '⇝', none), ("zopf;", '𝕫', none), ("zscr;", '𝓏', none), ("zwj;", '\u200d', none),
  ("zwnj;", '\u200c', none)]

end Hypertext.Reference
