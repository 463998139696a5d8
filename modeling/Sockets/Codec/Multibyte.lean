import Sockets.Codec.Cjk.Iso2022

/-!
# Multibyte encodings of East Asian scripts

`decodeMultibyte` decodes bytes with the multibyte encoding of a module name: the Chinese
encodings (GB 2312, GBK, GB 18030, HZ, Big5, code page 950, Big5-HKSCS), the Korean ones
(EUC-KR, code page 949, Johab, ISO-2022-KR) and the Japanese ones (Shift JIS, code page 932,
EUC-JP, the encodings of JIS X 0213 and the ISO-2022-JP family). Each is strict and reports the
first stretch of bytes it refuses under the module name.
-/

namespace Sockets

namespace Codec

open Cjk

/-- Decoding with a multibyte encoding, by module name. -/
def decodeMultibyte (name : String) (bs : List UInt8) : Except Failure Text :=
  match name with
  | "gb2312" => gb2312Stepper.run name bs
  | "gbk" => gbkStepper.run name bs
  | "gb18030" => gb18030Stepper.run name bs
  | "hz" => hzStepper.run name bs
  | "big5" => big5Stepper.run name bs
  | "cp950" => cp950Stepper.run name bs
  | "big5hkscs" => big5hkscsStepper.run name bs
  | "euc_kr" => eucKrStepper.run name bs
  | "cp949" => cp949Stepper.run name bs
  | "johab" => johabStepper.run name bs
  | "shift_jis" => shiftJisStepper.run name bs
  | "cp932" => cp932Stepper.run name bs
  | "euc_jp" => eucJpStepper.run name bs
  | "euc_jis_2004" => (eucJis2004Stepper false).run name bs
  | "euc_jisx0213" => (eucJis2004Stepper true).run name bs
  | "shift_jis_2004" => (shiftJis2004Stepper false).run name bs
  | "shift_jisx0213" => (shiftJis2004Stepper true).run name bs
  | "iso2022_kr" => iso2022Kr.stepper.run name bs
  | "iso2022_jp" => iso2022Jp.stepper.run name bs
  | "iso2022_jp_1" => iso2022Jp1.stepper.run name bs
  | "iso2022_jp_2" => iso2022Jp2.stepper.run name bs
  | "iso2022_jp_2004" => iso2022Jp2004.stepper.run name bs
  | "iso2022_jp_3" => iso2022Jp3.stepper.run name bs
  | "iso2022_jp_ext" => iso2022JpExt.stepper.run name bs
  | _ => .error (.lookup ("unknown encoding: " ++ name))

end Codec

end Sockets
