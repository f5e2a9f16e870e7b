import UserPlane.Proofs.RoundTrip
import UserPlane.Proofs.Tool.Accounting

/-! # Encoding a text and decoding the output

What a call to encode prints is a text that a call to decode reads, and each entry in it decodes
(`Tool.decoded_entries`). So nothing gets lost in the second call, and what it prints are the
entities of the first text without what no entry keeps; only those are missing that the first call
refused. -/

namespace UserPlane.Tool

/-! ## Entities one by one -/

/-- What comes of entities that are encoded by one call and decoded by the next. -/
structure RoundTrips (es : List Entity) (encoding decoding : Outcome) : Prop where
  /-- The first call succeeds exactly if it accepts every entity. -/
  encoding_exitCode : encoding.exitCode = 0 ↔ ∀ e ∈ es, ∃ r, e.encode = .ok r
  /-- The second call succeeds. -/
  decoding_exitCode : decoding.exitCode = 0
  /-- The second call prints, in order, the accepted entities without what is lost. -/
  decoding_output : decoding.output = Json.write .pretty (.array
    (((es.filter fun e => e.encode.isOk).map Entity.normalized).map Entity.toJson)) ++ "\n"

/-- What comes of two calls depends on their exit codes and on what the second one prints. -/
theorem RoundTrips.congr {es : List Entity} {encoding decoding encoding' decoding' : Outcome}
    (h : RoundTrips es encoding decoding) (hencoding : encoding'.exitCode = encoding.exitCode)
    (hdecoding : decoding'.exitCode = decoding.exitCode)
    (houtput : decoding'.output = decoding.output) : RoundTrips es encoding' decoding' where
  encoding_exitCode := by
    rw [hencoding]
    exact h.encoding_exitCode
  decoding_exitCode := hdecoding.trans h.decoding_exitCode
  decoding_output := houtput.trans h.decoding_output

end UserPlane.Tool
