import DidGo.Json.Value
import DidGo.Encoding.Utf8
import DidGo.Encoding.Base64
import DidGo.Json.Canonical
import DidGo.Json.Decode
import DidGo.Json.Roundtrip
import DidGo.Json.Accepted
import DidGo.Json.Reencode
import DidGo.Json.Struct
import DidGo.Sidetree.Model
import DidGo.Sidetree.LongForm
import DidGo.Sidetree.PatchValidator
import DidGo.Orb.RollingCounter
import DidGo.Ld.Validator
import DidGo.Ld.Validate
import DidGo.Jose.Jwk
import DidGo.Jose.DidKey
import DidGo.Sidetree.RecoverParser
import DidGo.Sidetree.Client
import DidGo.Sidetree.Create
import DidGo.Sidetree.SignedRequests
import DidGo.Sidetree.AnchorWriter
import DidGo.Jose.Secp256k1
import DidGo.Jose.JwkCodec
