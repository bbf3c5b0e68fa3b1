import ShaderTools.Bytes
import ShaderTools.Text.Basic

/-!
Text in code page 437, in which every byte is a character: the lower half is ASCII, and the upper
half holds accented letters, box drawings and mathematical signs.
-/

namespace ShaderTools.Text.CodePage

/-- The characters of the bytes from `80` on. -/
def upperHalf : Text :=
  ("ÇüéâäàåçêëèïîìÄÅÉæÆôöòûùÿÖÜ¢£¥₧ƒáíóúñÑªº¿⌐¬½¼¡«»░▒▓│┤╡╢╖╕╣║╗╝╜╛┐└┴┬├─┼╞╟╚╔╩╦╠═╬╧╨╤╥╙╘╒╓╫╪┘┌█▄▌▐▀"
    ++ "αßΓπΣσµτΦΘΩδ∞φε∩≡±≥≤⌠⌡÷≈°∙·√ⁿ²■\u00a0").toList

def decodeByte (b : UInt8) : Char :=
  if b.toNat < 0x80 then Char.ofNat b.toNat else upperHalf.getD (b.toNat - 0x80) '\ufffd'

def decode (bytes : Bytes) : Text := bytes.map decodeByte

end ShaderTools.Text.CodePage
