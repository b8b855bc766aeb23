/-!
# Functions of the client program of the base game

Each line holds an address, the name of the function there and the hash of its code.
-/

namespace Disasm.Data.ClientHashes

def part1 : String := "0x0 vmMain 2ad89a6d
0x87 CG_RegisterCvars 73615763
0xff CG_ForceModelChange -6b3cb275
0x12a CG_UpdateCvars -73835dad
0x17d CG_CrosshairPlayer -5775d0f8
0x18e CG_LastAttacker -21c5fd0e
0x19f CG_Printf 71387be
0x1b8 CG_Error -4cc921fd
0x1d1 Com_Error -270db2c0
0x1ec Com_Printf -2fb55fc5
0x207 CG_Argv -21bddc6a
0x216 CG_RegisterItemSounds 5c5b0e55
0x2b3 CG_RegisterSounds 69aa44c5
0x790 CG_RegisterGraphics 21853fdb
0xc2c CG_BuildSpectatorString -5104115c
0xc80 CG_RegisterClients -730090ac
0xcc7 CG_ConfigString 582c6f8b
0xce8 CG_StartMusic 4759fcd
0xd1c CG_Init -7d2090a0
0xe36 CG_Shutdown -64bac70e
0xe39 CG_EventHandling -64bac70e
0xe3c CG_KeyEvent -64bac70e
0xe3f CG_MouseEvent -64bac70e
0xe42 BG_FindItemForPowerup -39422a47
0xe85 BG_FindItemForHoldable 6efd71d3
0xebf BG_FindItemForWeapon -4cb0f364
0xef2 BG_FindItem 7bb9fc95
0xf1d BG_PlayerTouchesItem -40f17c2e
0xf7d BG_CanItemBeGrabbed 7b82bab1
0x10ae BG_EvaluateTrajectory 73ee8816
0x127e BG_EvaluateTrajectoryDelta 2c007b0e
0x1378 BG_AddPredictableEventToPlayerstate -58308e0f
0x13b3 BG_TouchJumpPad 9dc6c37
0x1423 BG_PlayerStateToEntityState -398fa699
0x161d BG_PlayerStateToEntityStateExtraPolate 759f3bc6
0x1824 PM_AddEvent 32d3f674
0x1833 PM_AddTouchEnt 4ed760d2
0x1888 PM_StartTorsoAnim -373a5b89
0x18ae PM_StartLegsAnim 226559a7
0x18de PM_ContinueLegsAnim 79221e18
0x18fe PM_ContinueTorsoAnim 79221e18
0x191e PM_ForceLegsAnim -4714fb91
0x192e PM_ClipVelocity -15ac4d29
0x19a7 PM_Friction 6d89bca1
0x1a9a PM_Accelerate -43549caa
0x1b16 PM_CmdScale -7e2ecaae
0x1bba PM_SetMovementDir -1b457817
0x1d06 PM_CheckJump -6a9128f5
0x1d93 PM_CheckWaterJump -37e7daf6
0x1e7a PM_WaterJumpMove -2c8b2b1c
0x1ebb PM_WaterMove 101eb75b
0x1fec PM_FlyMove 77cab085
0x2077 PM_AirMove 664aa32a
0x211a PM_GrappleMove 222198f8
0x21d1 PM_WalkMove -1daed539
0x23cd PM_DeadMove -173e1c24
0x2446 PM_NoclipMove -27fbed85
0x259a PM_FootstepForSurface -4ade2530
0x25b3 PM_CrashLand -25f94cf7
0x26b0 PM_CorrectAllSolid 4dccbe18
0x2797 PM_GroundTraceMissed -1f08df0c
0x2830 PM_GroundTrace 47d505c7
0x29a1 PM_SetWaterLevel 6d023df0
0x2a6e PM_CheckDuck -21b414da
0x2bbf PM_Footsteps 544e69b5
0x2d31 PM_WaterEvents -7bf1f80c
0x2d88 PM_BeginWeaponChange f06bfd5
0x2dd2 PM_FinishWeaponChange 5df913b6
0x2e1a PM_TorsoAnimation -7303f5fe
0x2e39 PM_Weapon 64077f7b
0x305f PM_Animate -2c4e45a6
0x3084 PM_DropTimers -536f9d2b
0x310e PM_UpdateViewAngles -7ade14ed
0x31b2 PmoveSingle 26e4abb9
0x3485 Pmove 4905de91
0x3511 PM_SlideMove -5d337693
0x3901 PM_StepSlideMove -43dd7bbe
0x3a92 Q_rand -9237ddd
0x3aa7 Q_random 269cb597
0x3ab9 Q_crandom 1446ae9f
0x3aca VectorCompare -2ac60b4c
0x3b02 VectorLength 9db4615
0x3b35 VectorLengthSquared 7251510d
0x3b61 Distance 3253a2a0
0x3ba2 DistanceSquared 5c3f3606
0x3bf0 VectorNormalizeFast 298c01b3
0x3c4f VectorInverse -4076a305
0x3c77 CrossProduct -64f836e
0x3cf0 ClampChar 2180e3cb
0x3d07 ClampShort 740806e
0x3d1e DirToByte 241b7a27
0x3d79 ByteToDir -cd05348
0x3d97 ColorBytes3 124c69b9
0x3e06 ColorBytes4 -7aeaa05b
0x3e98 NormalizeColor 10019a6
0x3f0e PlaneFromPoints -47c2bbc2
0x3fcc RotatePointAroundVector 12c0bbdd
0x40d7 RotateAroundDirection -725aa774
0x411b vectoangles -d1a5869
0x41d7 AnglesToAxis 3b564061
0x420c AxisClear -3e014c8
0x4243 AxisCopy -408ae08b
0x4267 ProjectPointOnPlane 78d7f1a8
0x4322 MakeNormalVectors 1177080b
0x43cd VectorRotate 44b085ed
0x446a Q_rsqrt 2db2b109
0x44a1 Q_fabs -4655c38d
0x44b1 LerpAngle 4ccf1903
0x44e2 AngleSubtract 78605e9e
0x4507 AnglesSubtract -15be7664
0x4555 AngleMod 16ea6a15
0x4567 AngleNormalize360 2d1c29cd
0x4575 AngleNormalize180 50f1dbbe
0x4590 AngleDelta a09bc6a
0x45a0 SetPlaneSignbits f9ff3d0
0x45cd BoxOnPlaneSide -41d9d8d8
0x498e RadiusFromBounds -4d85b6cd
0x49e1 ClearBounds -818e1a5
0x4a18 AddPointToBounds 41ffad57
0x4ab1 VectorNormalize -67c82bfd
"

def part2 : String := "0x4b21 VectorNormalize2 45236424
0x4baf _VectorMA 739882a
0x4bf1 _DotProduct 47b4f428
0x4c26 _VectorSubtract -14e59bb3
0x4c5f _VectorAdd -12c9c172
0x4c98 _VectorCopy -46194af2
0x4cbf _VectorScale -6b43ab1c
0x4cef Vector4Scale -20190a8d
0x4d31 Q_log2 1d696e03
0x4d50 MatrixMultiply f1d3ad8
0x4f25 AngleVectors 3d39955c
0x501d PerpendicularVector 2b5c319b
0x5089 Com_Clamp b42b554
0x50a3 COM_SkipPath -7890e297
0x50c7 COM_StripExtension 18e9ca28
0x50fd COM_DefaultExtension -52747e97
0x5145 ShortSwap -3bbffb33
0x5165 ShortNoSwap -71140ad4
0x5170 LongSwap 7afadc87
0x51a3 LongNoSwap -4cbdf135
0x51a9 Long64Swap 2d420e5d
0x51e6 Long64NoSwap -bb3c22
0x51ee FloatSwap -299d1867
0x5204 FloatNoSwap 1e5f19fa
0x520b COM_BeginParseSession 6e5dc4ed
0x521d COM_GetCurrentParseLine -2ac47bb
0x5223 COM_Parse 6a6528ae
0x5232 COM_ParseError -61f78d4c
0x5252 COM_ParseWarning -61f78d4c
0x5272 SkipWhitespace -1740a178
0x52a9 COM_Compress -47e3d24e
0x53fc COM_ParseExt 5e0fbe8
0x5548 COM_MatchToken 214c706e
0x5571 SkipBracedSection -68f58843
0x55af SkipRestOfLine -66722e6b
0x55e7 Parse1DMatrix -5dfdb3d8
0x5626 Parse2DMatrix -69c8f842
0x5661 Parse3DMatrix -56528b06
0x56a6 Q_isprint -31452673
0x56bb Q_islower -31452673
0x56d0 Q_isupper -31452673
0x56e5 Q_isalpha 5b5b2ecf
0x5706 Q_strrchr -67b7e59a
0x573a Q_strncpyz -1f6fe6d7
0x5775 Q_stricmpn -732323fa
0x5800 Q_strncmp 53e5f934
0x5852 Q_stricmp -12528a0d
0x587a Q_strlwr 2cb7e721
0x58a0 Q_strupr 2cb7e721
0x58c6 Q_strcat 3eb8ac19
0x58f2 Q_PrintStrlen -1d33f11b
0x5942 Q_CleanStr -7f41eb17
0x59a8 Com_sprintf -63c465ea
0x59e7 va 543eff22
0x5a14 Info_ValueForKey -fbaa4dc
0x5af4 Info_NextPair 2b78359a
0x5b92 Info_RemoveKey 39369abb
0x5c62 Info_RemoveKey_Big 2d0980fa
0x5d32 Info_Validate -2175fdd6
0x5d59 Info_SetValueForKey 3074aec7
0x5e29 Info_SetValueForKey_Big -4daf929c
0x5ef1 CG_TargetCommand_f 1127e531
0x5f23 CG_SizeUp_f 1b6a86b
0x5f39 CG_SizeDown_f -24dd3950
0x5f4f CG_Viewpos_f 1727ab76
0x5f67 CG_ScoresDown_f 27a70676
0x5f89 CG_ScoresUp_f -42a213ea
0x5f97 CG_TellTarget_f 3ebd0a93
0x5fc2 CG_TellAttacker_f 3ebd0a93
0x5fed CG_VoiceTellTarget_f 3ebd0a93
0x6018 CG_VoiceTellAttacker_f 3ebd0a93
0x6043 CG_StartOrbit_f -3fba60da
0x608b CG_ConsoleCommand -4cfe9f39
0x60c9 CG_InitConsoleCommands 6a596168
0x616d CG_DrawField -f8b8aa3
0x629c CG_Draw3DModel 50a2fe
0x6315 CG_DrawHead 19afcdf1
0x63ce CG_DrawFlagModel -142c822e
0x64b3 CG_DrawStatusBarHead 79e682d5
0x6620 CG_DrawStatusBarFlag -5eb8f204
0x6639 CG_DrawTeamBackground -542e7a4c
0x667c CG_DrawStatusBar 2a378bf1
0x6877 CG_DrawAttacker -4f7845a3
0x691c CG_DrawSnapshot -4c4d4917
0x695c CG_DrawFPS -2c24b4c6
0x69e9 CG_DrawTimer 5630c34f
0x6a51 CG_DrawTeamOverlay -2ce80265
0x6d90 CG_DrawUpperRight 31877fd0
0x6dee CG_DrawScores -35db2a44
0x7146 CG_DrawPowerups -6752d554
0x72f4 CG_DrawLowerRight 73d5ad50
0x7327 CG_DrawPickupItem 300e1df2
0x7399 CG_DrawLowerLeft -5f63fc54
0x73cd CG_DrawTeamInfo -6cf2d614
0x74f5 CG_DrawHoldableItem 5d869017
0x7521 CG_DrawReward 75ba61e5
0x764a CG_AddLagometerFrameInfo -8003065
0x766a CG_AddLagometerSnapshotInfo 1e49989a
0x76ad CG_DrawDisconnect 1b8394fb
0x7723 CG_DrawLagometer 15e18d0c
0x793d CG_CenterPrint 5e401a92
0x797b CG_DrawCenterString -75dc6ffa
0x7a51 CG_DrawCrosshair 4951fdf8
0x7b28 CG_ScanForCrosshairEntity -7eca96bf
0x7b97 CG_DrawCrosshairNames -117b4198
0x7bfa CG_DrawSpectator -31483608
0x7c28 CG_DrawVote -2039ee07
0x7c73 CG_DrawTeamVote -52366655
0x7cf3 CG_DrawScoreboard -265192ae
0x7cfd CG_DrawIntermission -586185a0
0x7d15 CG_DrawFollow -4ab667b2
0x7d78 CG_DrawAmmoWarning 6e15e4aa
0x7db1 CG_DrawWarmup -60686a1b
0x7fb9 CG_Draw2D 5cf1ead0
0x803e CG_DrawTourneyScoreboard 36e2f497
0x8044 CG_DrawActive -5c5e46d2
0x80cf CG_AdjustFrom640 -c481d8f
0x8106 CG_FillRect a168bca
0x8140 CG_DrawSides 5789680a
0x81a1 CG_DrawTopBottom 4bcdb61e
"

def part3 : String := "0x8202 CG_DrawRect -2ccc13eb
0x8234 CG_DrawPic 667a255b
0x8266 CG_DrawChar 30ce8a37
0x82d5 CG_DrawStringExt -6b24f7ab
0x8404 CG_DrawBigString 6545ff24
0x843c CG_DrawBigStringColor 3d9b5569
0x8462 CG_DrawSmallString 27ce6c84
0x8496 CG_DrawSmallStringColor -4a96241
0x84b7 CG_DrawStrlen 50565b17
0x84ff CG_TileClearBox 593ec130
0x8546 CG_TileClear -2542eefc
0x85dd CG_FadeColor -20ec2dd7
0x8621 CG_TeamColor -4a97948
0x8644 CG_GetColorForHealth 5ad3818a
0x86dd CG_ColorForHealth -673e17d2
0x86f2 UI_DrawBannerString2 -5bc39bc8
0x87b8 UI_DrawBannerString 1da2c91d
0x8866 UI_ProportionalStringWidth 676a1a9e
0x88a9 UI_DrawProportionalString2 1b6da00d
0x8974 UI_ProportionalSizeScale -50be75f2
0x8983 UI_DrawProportionalString -4a6c3f82
0x8ad7 CG_BubbleTrail -3623ae
0x8c75 CG_SmokePuff -4139ec7b
0x8dfd CG_SpawnEffect ba38ec
0x8e95 CG_ScorePlum -4678bcec
0x8f62 CG_MakeExplosion -652e5af9
0x906d CG_Bleed -5240f576
0x90d5 CG_LaunchGib -3c5178ea
0x9154 CG_GibPlayer -184d8285
0x9453 CG_LaunchExplode -3c5178ea
0x94d2 CG_BigExplode 28243635
0x965e CG_PositionEntityOnTag -64588f35
0x9723 CG_PositionRotatedEntityOnTag 271df87a
0x97e5 CG_SetEntitySoundPosition 53d2a234
0x9842 CG_EntityEffects -cd4754b
0x98db CG_General 626d5037
0x9938 CG_Speaker -37e393e2
0x999b CG_Item 5be6931f
0x9c79 CG_Missile 15f50503
0x9d8a CG_Grapple -3eb060c2
0x9dfd CG_Mover -add10e6
0x9e6f CG_Beam 71b83bcd
0x9e9b CG_Portal 477d4207
0x9f0a CG_AdjustPositionForMover -466e466f
0x9fc6 CG_InterpolateEntityPosition -16fd1c68
0xa086 CG_CalcEntityLerpPositions -4f372ea7
0xa125 CG_TeamBase 10679025
0xa171 CG_AddCEntity 3fc63c72
0xa1fb CG_AddPacketEntities -3d36b1e9
0xa2a9 CG_PlaceString 40aa565d
0xa353 CG_Obituary -2a6bce79
0xa5af CG_UseItem 19db663
0xa653 CG_ItemPickup -76860dfe
0xa685 CG_PainEvent 48873e01
0xa6e0 CG_EntityEvent -14ab72bd
0xb15a CG_CheckEvents -1cac14f5
0xb1f0 CG_DrawLoadingIcons 3ea9e2b9
0xb26d CG_LoadingString -d2fd784
0xb27d CG_LoadingItem d27a83d
0xb2be CG_LoadingClient -2077db93
0xb3b5 CG_DrawInformation 58adbf57
0xb63a CG_InitLocalEntities -4cc31b70
0xb670 CG_FreeLocalEntity 113fb662
0xb6a9 CG_AllocLocalEntity 15160c74
0xb6e7 CG_BloodTrail -558ed0ac
0xb75c CG_FragmentBounceMark -72ab6877
0xb7ff CG_FragmentBounceSound -7c71774d
0xb853 CG_ReflectVelocity 2d7e066a
0xb949 CG_AddFragment -b24b9e
0xba51 CG_AddFadeRGB 51f3aa07
0xbb23 CG_AddMoveScaleFade 5c1c10bf
0xbc0e CG_AddScaleFade 19600d7f
0xbca7 CG_AddFallScaleFade 59301c50
0xbd59 CG_AddExplosion 36e63f9f
0xbdca CG_AddSpriteExplosion -35d37cb8
0xbe96 CG_AddScorePlum -6a5dd33c
0xc0cc CG_AddLocalEntities 12ac8b23
0xc154 CG_InitMarkPolys -4cc31b70
0xc18a CG_FreeMarkPoly 113fb662
0xc1c3 CG_AllocMark 4126b84
0xc21a CG_ImpactMark -5e885f81
0xc4f4 CG_AddMarks 4b51d09a
0xc711 CG_ClearParticles -4f704f6a
0xc7b4 CG_AddParticleToScene -77ee51be
0xdfde CG_AddParticles -22e20e62
0xe1e3 CG_ParticleSnowFlurry 9c2c521
0xe37f CG_ParticleSnow 7dcaaed9
0xe4d5 CG_ParticleBubble 52bce2b
0xe654 CG_ParticleSmoke -1a721a3f
0xe753 CG_ParticleBulletDebris -4674f4ac
0xe814 CG_ParticleExplosion -ce58940
0xe91f CG_AddParticleShrapnel -64bac70e
0xe922 CG_NewParticleArea 265184c7
0xea63 CG_SnowLink 16e06bf2
0xeaa9 CG_ParticleImpactSmokePuff 5215c9fa
0xeb8c CG_Particle_Bleed -1bb212a1
0xec70 CG_Particle_OilParticle 75f7ee1e
0xed72 CG_Particle_OilSlick 28e0c7f5
0xeeb3 CG_OilSlickRemove -43a512b8
0xeefe ValidBloodPool 6fcfb2e6
0xf004 CG_BloodPool 7bd595b7
0xf0fd CG_ParticleBloodCloud 744d0e3d
0xf239 CG_ParticleSparks 32d0fed7
0xf3af CG_ParticleDust -8a2cac0
0xf5b5 CG_ParticleMisc -650b92d5
0xf655 CG_CustomSound 244d23fe
0xf6c5 CG_ParseAnimationFile 7ad35082
0xfb0c CG_FileExists -1ae65f95
0xfb28 CG_FindClientModelFile 4cf75b11
0xfc94 CG_FindClientHeadFile 2b1a680
0xfe11 CG_RegisterClientSkin -5747534
0xfede CG_RegisterClientModelname 679af3a1
0x1013a CG_ColorFromString 64a22a00
0x1019e CG_LoadClientInfo -5ceb8008
0x10368 CG_CopyClientInfoModel 23e756c9
0x10437 CG_ScanForExistingClientInfo -226c5031
0x10515 CG_SetDeferredClientInfo -505529a9
0x1063f CG_NewClientInfo 75f7f357
0x1095d CG_LoadDeferredPlayers 420c860c
0x109a5 CG_SetLerpFrameAnimation -c03a4dd
"

def part4 : String := "0x109fb CG_RunLerpFrame -40245957
0x10bdd CG_ClearLerpFrame 4daa8ae7
0x10c1a CG_PlayerAnimation 788b9bfa
0x10ce0 CG_SwingAngles 420040db
0x10de5 CG_AddPainTwitch -6477bbb3
0x10e2c CG_PlayerAngles -6eef0759
0x11019 CG_HasteTrail 1f9e24be
0x11096 CG_TrailItem 9bb3cd6
0x110f5 CG_PlayerFlag 1d032a09
0x1129e CG_PlayerPowerups -35ad71c8
0x113cf CG_PlayerFloatSprite -7e61cc2
0x1141b CG_PlayerSprites -4ccac544
0x114f1 CG_PlayerShadow -72dbff1a
0x11580 CG_PlayerSplash 4d715c2d
0x11673 CG_AddRefEntityWithPowerups 559821f1
0x116eb CG_LightVerts 7e6c2cd9
0x1181b CG_Player 3e76ad79
0x11991 CG_ResetPlayerEntity 3d55e83e
0x11a91 CG_CheckAmmo -7575995e
0x11b10 CG_DamageFeedback -6d1156b9
0x11c53 CG_Respawn 6ce2418e
0x11c64 CG_CheckPlayerstateEvents 6d7a8f9a
0x11d46 CG_CheckChangedPredictableEvents 5f5ea04b
0x11dd3 pushReward -787e3747
0x11e00 CG_CheckLocalSounds -5d90d26f
0x12171 CG_TransitionPlayerState -1fea7987
0x12227 CG_BuildSolidList -6897fa9c
0x122b6 CG_ClipMoveToEntities 186f8e3f
0x123a7 CG_Trace 7380a37
0x123eb CG_PointContents 76923474
0x1245b CG_InterpolatePlayerState 11de6409
0x12590 CG_TouchItem 5c280c58
0x12641 CG_TouchTriggerPrediction -1210c14c
0x126f4 CG_PredictPlayerState -3fadca64
0x12994 CG_DrawClientScore 4f199b81
0x12cc0 CG_TeamScoreboard 75c043df
0x12d39 CG_DrawOldScoreboard 73bbfbf0
0x130d7 CG_CenterGiantLine 1fb6988b
0x13117 CG_DrawOldTourneyScoreboard 279be305
0x132de CG_ParseScores -36aa23c
0x13502 CG_ParseTeamInfo -6869a37d
0x135d1 CG_ParseServerinfo -45bd7339
0x136c8 CG_ParseWarmup -7f00871
0x1370b CG_SetConfigValues -2f12e392
0x13772 CG_ShaderStateChanged -5919d26e
0x1382a CG_ConfigStringModified -7e08e7fe
0x139ec CG_AddToTeamChat -74a93f43
0x13b67 CG_MapRestart -76c80fd7
0x13baf CG_ParseVoiceChats -2234cd70
0x13e1d CG_LoadVoiceChats 14d9c7c2
0x13e7f CG_HeadModelVoiceChats -61190f2f
0x13f19 CG_GetVoiceChat -6957ec5d
0x13f8d CG_VoiceChatListForClient 68b204bb
0x1415b CG_PlayVoiceChat -64bac70e
0x1415e CG_PlayBufferedVoiceChats -64bac70e
0x14161 CG_AddBufferedVoiceChat -64bac70e
0x14164 CG_VoiceChatLocal -64bac70e
0x14167 CG_VoiceChat -64bac70e
0x1416a CG_RemoveChatEscapeChar -533ad616
0x141b0 CG_ServerCommand 3d8605
0x14353 CG_ExecuteNewServerCommands -cbd257d
0x1437a CG_ResetEntity 3d710bc0
0x143be CG_TransitionEntity 36a31e2a
0x143eb CG_SetInitialSnapshot 2ad86717
0x14463 CG_TransitionSnapshot 3e75e242
0x14557 CG_SetNextSnap 6b283d6e
0x1462c CG_ReadNextSnapshot -5be4f5c2
0x1469b CG_ProcessSnapshots -16848434
0x1474b CG_TestModel_f 6819183c
0x147d6 CG_TestGun_f -efd8835
0x147e2 CG_TestModelNextFrame_f -1b6d5d61
0x147f8 CG_TestModelPrevFrame_f 4c4034ef
0x14815 CG_TestModelNextSkin_f -1b6d5d61
0x1482b CG_TestModelPrevSkin_f 4c4034ef
0x14848 CG_AddTestModel 44e2ca70
0x148d3 CG_CalcVrect -22cc5dfc
0x14940 CG_OffsetThirdPersonView 30becf8a
0x14ab9 CG_StepOffset -2ced9fa5
0x14adb CG_OffsetFirstPersonView d8b2235
0x14d08 CG_ZoomDown_f 3d82d670
0x14d18 CG_ZoomUp_f -1d428955
0x14d28 CG_CalcFov -7bcf1ed
0x14e39 CG_DamageBlendBlob 17c1b034
0x14f13 CG_CalcViewValues -17c2eaaf
0x15027 CG_PowerupTimerSounds 62faeb99
0x15077 CG_AddBufferedSound -74ca69e0
0x150a1 CG_PlayBufferedSounds -1655a2a6
0x150da CG_DrawActiveFrame 63345e0e
0x15216 CG_MachineGunEjectBrass 7b08bd95
0x153fd CG_ShotgunEjectBrass -8ccf4b4
0x15612 CG_RailTrail -70ba1dca
0x159c4 CG_RocketTrail 5fbc70dc
0x15ab2 CG_PlasmaTrail 3f971b26
0x15d71 CG_GrappleTrail -faf49ae
0x15e02 CG_GrenadeTrail -4e200767
0x15e0e CG_RegisterWeapon -5231709a
0x16336 CG_RegisterItemVisuals 35b7b607
0x163d9 CG_MapTorsoToWeaponFrame -326301c7
0x1644a CG_CalculateWeaponPosition 4f40811a
0x1652f CG_LightningBolt -6591ca75
0x166e4 CG_SpawnRailTrail 385b350e
0x16718 CG_MachinegunSpinAngle 6f1f7d8f
0x167ae CG_AddWeaponWithPowerups 1ffbf60f
0x167f2 CG_AddPlayerWeapon -55c53be0
0x16ae3 CG_AddViewWeapon -377099e0
0x16c4c CG_DrawWeaponSelect 27a36b08
0x16d6e CG_WeaponSelectable 5982e77
0x16d93 CG_NextWeapon_f -5dc63b08
0x16de9 CG_PrevWeapon_f -6cea990b
0x16e3f CG_Weapon_f -4bfdb9a2
0x16e84 CG_OutOfAmmoChange -28d850e5
0x16ea9 CG_FireWeapon 7f7ae989
0x16f66 CG_MissileHitWall 434450b5
0x171df CG_MissileHitPlayer 14c2536c
0x17209 CG_ShotgunPellet 1619a9b6
0x172f4 CG_ShotgunPattern 3d48af9d
0x173aa CG_ShotgunFire 8260f9e
0x17481 CG_Tracer 203a9382
0x1769a CG_CalcMuzzlePoint 6834079f
0x17796 CG_Bullet 63118e4c
"

def part5 : String := "0x1786a swapfunc -4bec0e3
0x178f1 med3 -472d498c
0x17974 qsort -5d3c407d
0x17d2d strlen 3ccc7232
0x17d48 strcat 2574254d
0x17d8b strcpy 20e861a
0x17dc0 strcmp 1a08c4e
0x17df9 strchr -3619ff05
0x17e18 strstr 9ea96f5
0x17e5e tolower 288c5baf
0x17e76 toupper -248d83c2
0x17e8e memmove -5c34248c
0x17ed5 tan -2dee6193
0x17eec srand 757355f2
0x17ef3 rand -36fb9fa
0x17f08 atof -1a4a66d7
0x17fcd _atof -9ed1716
0x18098 atoi 79498fe2
0x18110 _atoi -6ce6b7c
0x18192 abs 5e5d0172
0x181a7 fabs 63aa0337
0x181bc AddInt 2e3dd69
0x18297 AddFloat -1ab6e21e
0x183a5 AddString -4a7aa31f
0x1843c vsprintf 3df41e94
0x185d4 sscanf 6d3737da
"

def text : String := String.join [part1, part2, part3, part4, part5]

end Disasm.Data.ClientHashes
