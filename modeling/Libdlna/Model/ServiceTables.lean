import Libdlna.Model.AvtsActions
import Libdlna.Model.Cds
import Libdlna.Model.Cms
import Libdlna.Model.Services

set_option autoImplicit false

namespace Libdlna

open CString

structure Controller where
  dlna : Dlna
  -- what the profiler adds to the list of supported MIME types
  supported : List Text
  players : Players

abbrev Handler := Controller → ActionEvent → Except Fault (Bool × ActionEvent)

def argIn (name stateVariable : String) : ServiceArg :=
  ⟨.input, name.toList, stateVariable.toList⟩

def argOut (name stateVariable : String) : ServiceArg :=
  ⟨.output, name.toList, stateVariable.toList⟩

def cmsServiceActions : List (ServiceAction Handler) :=
  [⟨"GetProtocolInfo".toList,
      [argOut "Source" "SourceProtocolInfo", argOut "Sink" "SinkProtocolInfo"],
      some fun c => cmsGetProtocolInfo c.supported⟩,
    ⟨"PrepareForConnection".toList, [], none⟩,
    ⟨"ConnectionComplete".toList, [], none⟩,
    ⟨"GetCurrentConnectionIDs".toList, [argOut "ConnectionIDs" "CurrentConnectionIDs"],
      some fun _ => cmsGetCurrentConnectionIds⟩,
    ⟨"GetCurrentConnectionInfo".toList,
      [argOut "ConnectionID" "A_ARG_TYPE_ConnectionID", argOut "RcsID" "A_ARG_TYPE_RcsID",
        argOut "AVTransportID" "A_ARG_TYPE_AVTransportID",
        argOut "ProtocolInfo" "A_ARG_TYPE_ProtocolInfo",
        argOut "PeerConnectionManager" "A_ARG_TYPE_ConnectionManager",
        argOut "PeerConnectionID" "A_ARG_TYPE_ConnectionID",
        argOut "Direction" "A_ARG_TYPE_Direction", argOut "Status" "A_ARG_TYPE_ConnectionStatus"],
      some fun c => cmsGetCurrentConnectionInfo c.supported⟩]

def cdsListingArgs : List ServiceArg :=
  [argIn "Filter" "A_ARG_TYPE_Filter", argIn "StartingIndex" "A_ARG_TYPE_Index",
    argIn "RequestedCount" "A_ARG_TYPE_Count", argIn "SortCriteria" "A_ARG_TYPE_SortCriteria",
    argOut "Result" "A_ARG_TYPE_Result", argOut "NumberReturned" "A_ARG_TYPE_Count",
    argOut "TotalMatches" "A_ARG_TYPE_Count", argOut "UpdateID" "A_ARG_TYPE_UpdateID"]

/-- `stack` and `fuel` are those of `cds_search`. -/
def cdsServiceActions (stack : VfsItem → Text → Text) (fuel : Nat) :
    List (ServiceAction Handler) :=
  [⟨"GetSearchCapabilities".toList, [argOut "SearchCaps" "SearchCapabilities"],
      some fun _ => cdsGetSearchCapabilities⟩,
    ⟨"GetSortCapabilities".toList, [argOut "SortCaps" "SortCapabilities"],
      some fun _ => cdsGetSortCapabilities⟩,
    ⟨"GetSystemUpdateID".toList, [argOut "Id" "SystemUpdateID"],
      some fun c => cdsGetSystemUpdateId c.dlna⟩,
    ⟨"Browse".toList,
      [argIn "ObjectID" "A_ARG_TYPE_ObjectID", argIn "BrowseFlag" "A_ARG_TYPE_BrowseFlag"] ++
        cdsListingArgs,
      some fun c => cdsBrowse c.dlna⟩,
    ⟨"Search".toList,
      [argIn "ContainerID" "A_ARG_TYPE_ObjectID",
        argIn "SearchCriteria" "A_ARG_TYPE_SearchCriteria"] ++ cdsListingArgs,
      some fun c => cdsSearch c.dlna stack fuel⟩,
    ⟨"CreateObject".toList, [], none⟩,
    ⟨"DestroyObject".toList, [], none⟩,
    ⟨"UpdateObject".toList, [], none⟩,
    ⟨"ImportResource".toList, [], none⟩,
    ⟨"ExportResource".toList, [], none⟩,
    ⟨"StopTransferResource".toList, [], none⟩,
    ⟨"GetTransferProgress".toList, [], none⟩,
    ⟨"DeleteResource".toList, [], none⟩,
    ⟨"CreateReference".toList, [], none⟩]

def avtsActionArgInstanceId : ServiceArg := argIn "InstanceID" "A_ARG_TYPE_InstanceID"

def avtsActionGetMediaInfoArgs : List ServiceArg :=
  [argOut "NrTracks" "NumberOfTracks", argOut "MediaDuration" "CurrentMediaDuration",
    argOut "CurrentURI" "AVTransportURI", argOut "CurrentURIMetaData" "AVTransportURIMetaData",
    argOut "NextURI" "NextAVTransportURI", argOut "NextURIMetaData" "NextAVTransportURIMetaData",
    argOut "PlayMedium" "PlaybackStorageMedium", argOut "RecordMedium" "RecordStorageMedium",
    argOut "WriteStatus" "RecordMediumWriteStatus"]

def avtsServiceActions : List (ServiceAction Handler) :=
  [⟨"SetAVTransportURI".toList,
      [avtsActionArgInstanceId, argIn "CurrentURI" "AVTransportURI",
        argIn "CurrentURIMetaData" "AVTransportURIMetaData"],
      some fun _ => avtsSetUriAnswer⟩,
    ⟨"SetNextAVTransportURI".toList,
      [avtsActionArgInstanceId, argIn "NextURI" "NextAVTransportURI",
        argIn "NextURIMetaData" "NextAVTransportURIMetaData"],
      some fun c => avtsSetNextUriAnswer c.players⟩,
    ⟨"GetMediaInfo".toList, avtsActionArgInstanceId :: avtsActionGetMediaInfoArgs,
      some fun c => avtsGetMinfo c.players⟩,
    ⟨"GetMediaInfo_Ext".toList,
      avtsActionArgInstanceId :: argOut "CurrentType" "CurrentMediaCategory" ::
        avtsActionGetMediaInfoArgs,
      some fun c => avtsGetMinfoExt c.players⟩,
    ⟨"GetTransportInfo".toList,
      [avtsActionArgInstanceId, argOut "CurrentTransportState" "TransportState",
        argOut "CurrentTransportStatus" "TransportStatus",
        argOut "CurrentSpeed" "TransportPlaySpeed"],
      some fun c => avtsGetInfo c.players⟩,
    ⟨"GetPositionInfo".toList,
      [avtsActionArgInstanceId, argOut "Track" "CurrentTrack",
        argOut "TrackDuration" "CurrentTrackDuration",
        argOut "TrackMetaData" "CurrentTrackMetaData", argOut "TrackURI" "CurrentTrackURI",
        argOut "RelTime" "RelativeTimePosition", argOut "AbsTime" "AbsoluteTimePosition",
        argOut "RelCount" "RelativeCounterPosition", argOut "AbsCount" "AbsoluteCounterPosition"],
      some fun c => avtsGetPosInfo c.players⟩,
    ⟨"GetDeviceCapabilities".toList,
      [avtsActionArgInstanceId, argOut "PlayMedia" "PossiblePlaybackStorageMedia",
        argOut "RecMedia" "PossibleRecordStorageMedia",
        argOut "RecQualityModes" "PossibleRecordQualityModes"],
      some fun c => avtsGetDevCaps c.players⟩,
    ⟨"GetTransportSettings".toList,
      [avtsActionArgInstanceId, argOut "PlayMode" "CurrentPlayMode",
        argOut "RecQualityMode" "CurrentRecordQualityMode"],
      some fun c => avtsGetSettings c.players⟩,
    ⟨"Stop".toList, [avtsActionArgInstanceId], some fun c => avtsStop c.players⟩,
    ⟨"Play".toList, [avtsActionArgInstanceId, argIn "Speed" "TransportPlaySpeed"],
      some fun c => avtsPlay c.players⟩,
    ⟨"Pause".toList, [avtsActionArgInstanceId], some fun c => avtsPause c.players⟩,
    ⟨"Record".toList, [], none⟩,
    ⟨"Seek".toList,
      [avtsActionArgInstanceId, argOut "Unit" "CurrentPlayMode",
        argOut "Target" "CurrentRecordQualityMode"],
      none⟩,
    ⟨"Next".toList, [avtsActionArgInstanceId], some fun c => avtsNext c.players⟩,
    ⟨"Previous".toList, [avtsActionArgInstanceId], some fun c => avtsPrevious c.players⟩,
    ⟨"SetPlayMode".toList, [], none⟩,
    ⟨"SetRecordQualityMode".toList, [], none⟩,
    ⟨"GetCurrentTransportActions".toList, [], none⟩]

end Libdlna
