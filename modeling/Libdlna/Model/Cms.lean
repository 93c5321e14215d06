import Libdlna.Model.Upnp

set_option autoImplicit false

namespace Libdlna

open CString

/-- `dlna_list_add` on a list that `NULL` ends; adding `NULL` changes nothing. -/
def dlnaListAdd (list : List Text) (element : Text) : List Text :=
  if list.any fun l => l = element then list else list ++ [element]

def dlnaGetSupportedMimeTypes (supported : List Text) : List Text := supported.foldl dlnaListAdd []

def cmsArgSource : Text := "Source".toList
def cmsArgSink : Text := "Sink".toList
def cmsArgConnectionIds : Text := "ConnectionIDs".toList
def cmsArgConnectionId : Text := "ConnectionID".toList
def cmsArgRcsId : Text := "RcsID".toList
def cmsArgTransportId : Text := "AVTransportID".toList
def cmsArgProtInfo : Text := "ProtocolInfo".toList
def cmsArgPeerConManager : Text := "PeerConnectionManager".toList
def cmsArgPeerConId : Text := "PeerConnectionID".toList
def cmsArgDirection : Text := "Direction".toList
def cmsArgStatus : Text := "Status".toList

def cmsDefaultConId : Text := "0".toList
def cmsUnknowId : Text := "-1".toList
def cmsOutput : Text := "Output".toList
def cmsStatusOk : Text := "OK".toList

def cmsProtocol (mime : Text) : Text := "http-get:*:".toList ++ mime ++ ":*".toList

/-- The loop that `cms_get_protocol_info` runs twice. -/
def cmsProtocols : List Text → Buffer → Except Fault Buffer
  | [], source => .ok source
  | mime :: rest, source => do
      let source ← bufferAppendf source (cmsProtocol mime)
      cmsProtocols rest (if rest = [] then source else bufferAppend source ",".toList)

def cmsGetProtocolInfo (supported : List Text) (ev : ActionEvent) :
    Except Fault (Bool × ActionEvent) := do
  let source ← cmsProtocols (dlnaGetSupportedMimeTypes supported) bufferNew
  let ev := upnpAddResponse ev cmsArgSource source.buf
  let sink ← cmsProtocols (dlnaGetSupportedMimeTypes supported) bufferNew
  let ev := upnpAddResponse ev cmsArgSink sink.buf
  .ok (ev.status, ev)

def cmsGetCurrentConnectionIds (ev : ActionEvent) : Except Fault (Bool × ActionEvent) :=
  let ev := upnpAddResponse ev cmsArgConnectionIds (some [])
  .ok (ev.status, ev)

def cmsProtocolSize : Nat := 512

def cmsGetCurrentConnectionInfo (supported : List Text) (ev : ActionEvent) :
    Except Fault (Bool × ActionEvent) :=
  let ev := upnpAddResponse ev cmsArgConnectionId (some cmsDefaultConId)
  let ev := upnpAddResponse ev cmsArgRcsId (some cmsUnknowId)
  let ev := upnpAddResponse ev cmsArgTransportId (some cmsUnknowId)
  let ev := (dlnaGetSupportedMimeTypes supported).foldl
    (fun ev mime =>
      upnpAddResponse ev cmsArgProtInfo (some ((cmsProtocol mime).take (cmsProtocolSize - 1)))) ev
  let ev := upnpAddResponse ev cmsArgPeerConManager (some [])
  let ev := upnpAddResponse ev cmsArgPeerConId (some cmsUnknowId)
  let ev := upnpAddResponse ev cmsArgDirection (some cmsOutput)
  let ev := upnpAddResponse ev cmsArgStatus (some cmsStatusOk)
  .ok (ev.status, ev)

end Libdlna
