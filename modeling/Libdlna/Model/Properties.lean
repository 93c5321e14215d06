import Libdlna.Model.Media

set_option autoImplicit false

namespace Libdlna

open CString

def avTimeBase : Int := 1000000

def twoDigits (z : Int) : Text :=
  let digits := decimal z.natAbs
  (if z < 0 then "-".toList else []) ++ List.replicate (2 - digits.length) '0' ++ digits

def propDuration (duration : Int) : Text :=
  let hours := duration.tdiv 3600
  let min := (duration - hours * 3600).tdiv 60
  let sec := duration - hours * 3600 - min * 60
  if hours ≠ 0 then
    decimalInt hours ++ ":".toList ++ twoDigits min ++ ":".toList ++ twoDigits sec ++ ".".toList
  else ":".toList ++ twoDigits min ++ ":".toList ++ twoDigits sec ++ ".".toList

/-- `item_get_properties`; `duration` and `bitsPerRawSample` are the fields of the context and of
its audio codec. -/
def itemGetProperties (ctx : Option AvFormatContext) (duration : Int) (bitsPerRawSample : Int32) :
    Option DlnaProperties :=
  match ctx with
  | none => none
  | some ctx =>
      (avProfileGetCodecs ctx).map fun codecs =>
        let audioField (field : AvCodecContext → Int32) : UInt32 :=
          toUInt32 ((codecs.ac.map fun ac => (field ac).toInt).getD 0)
        { duration := propDuration (toInt32 (duration.tdiv avTimeBase))
          bitrate := toUInt32 (ctx.bitRate.toInt.tdiv 8)
          sampleFrequency := audioField AvCodecContext.sampleRate
          bps := audioField fun _ => bitsPerRawSample
          channels := audioField AvCodecContext.channels
          resolution :=
            match codecs.video with
            | none => []
            | some vs =>
                decimalInt vs.codec.width.toInt ++ "x".toList ++
                  decimalInt vs.codec.height.toInt }

end Libdlna
